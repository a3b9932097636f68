import Eva4.Items.Frame
import Eva4.Core.LocalItems

/-!
# Frames of the core operations

Announcements, saves and schedules leave the inventory and the cells of the items as
they are.  Loops over items touch what their rounds touch.
-/

namespace Eva4.Core

open Lib Items

variable {V : Type}

namespace World

section

variable (w : World V)

@[simp]
lemma withMem_toMem : (w.withMem m).toMem = m :=
  rfl

@[simp]
lemma state_setState : (w.setState item st).state item = some st := by
  simp [state, setState, Heap.setState, Heap.setCell]

@[simp]
lemma state_setEnabled {item : Item V} {enabled : Bool} :
    (w.setEnabled item enabled).state item = w.state item := by
  simp [state, setEnabled, Heap.setEnabled, Heap.setCell]

lemma setState_cells (item : Item V) (st : ItemState V) (h : ptr ≠ item.ptr) :
    (w.setState item st).heap.cells ptr = w.heap.cells ptr :=
  Function.update_of_ne h _ w.heap.cells

lemma setEnabled_cells {item : Item V} {enabled : Bool} (h : ptr ≠ item.ptr) :
    (w.setEnabled item enabled).heap.cells ptr = w.heap.cells ptr :=
  Function.update_of_ne h _ w.heap.cells

end

end World

/-!
## Programs that leave the items alone
-/

@[simp]
lemma exec_onMem : (onMem label f).exec w = ((f w.toMem).1, w.withMem (f w.toMem).2) :=
  (rfl)

@[simp]
lemma exec_getItem : (getItem oid).exec w = (w.inv.getItem oid, w) :=
  (rfl)

@[simp]
lemma exec_readState : (readState item).exec w = (w.state item, w) :=
  (rfl)

@[simp]
lemma exec_readEnabled : (readEnabled item).exec w = (w.enabled item, w) :=
  (rfl)

structure Quiet (w w' : World V) : Prop where
  toMem : w'.toMem = w.toMem
  calls : w'.calls = w.calls

lemma Quiet.refl : Quiet w w :=
  ⟨rfl, rfl⟩

lemma Quiet.trans (h : Quiet w w') (h' : Quiet w' w'') : Quiet w w'' :=
  ⟨h'.toMem.trans h.toMem, h'.calls.trans h.calls⟩

lemma exec_processNewState_quiet (env : Env V) (oid : OID) (st : ItemState V)
    (dbSt : Option (DbState V)) (w : World V) :
    Quiet w ((processNewState env oid st dbSt).exec w).2 := by
  unfold processNewState
  rw [Prog.exec_bind]
  cases dbSt with
  | none => exact ⟨rfl, rfl⟩
  | some db =>
    simp only [Prog.exec_ite]
    split <;> exact ⟨rfl, rfl⟩

/-!
## Loops
-/

theorem exec_each_touches {f : X -> CoreM V Unit} {touched : X -> OID -> Prop}
    {I : Mem V -> Prop} (hkeep : forall m m', I m -> m.Evolves prot m' -> I m') :
    forall {xs : List X} {w : World V}, w.toMem.WellFormed -> I w.toMem ->
      (forall x, x ∈ xs -> forall w : World V, w.toMem.WellFormed -> I w.toMem ->
        w.toMem.Touches prot obs (touched x) ((f x).exec w).2.toMem) ->
      w.toMem.Touches prot obs (fun oid => exists x, x ∈ xs ∧ touched x oid)
        ((Prog.each f xs).exec w).2.toMem := by
  intro xs
  induction xs with
  | nil =>
    intro w hwf _ _
    apply (Mem.Touches.refl hwf).congr
    intro oid
    simp
  | cons x xs ih =>
    intro w hwf hI hround
    have hfirst := hround x List.mem_cons_self w hwf hI
    have hrest := ih hfirst.evolves.wellFormed (hkeep _ _ hI hfirst.evolves)
      fun y hy => hround y (List.mem_cons_of_mem x hy)
    rw [Prog.exec_each_cons]
    apply (hfirst.trans hwf hrest).congr
    intro oid
    simp

end Eva4.Core
