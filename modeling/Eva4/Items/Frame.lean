import Eva4.Items.InventoryInvariant

/-!
# What operations leave alone

Items are protected by their owner.  Operations that create only unprotected items
leave the protected ones alone as long as they do not remove or replace one; a
protected item that is lost never comes back, since new items get new addresses.
-/

namespace Eva4.Items

open Lib

variable {V B : Type}

namespace Mem

variable (prot : Option String -> Prop)

/-- What is found later was there before or is new and not protected. -/
structure Evolves (m m' : Mem V) : Prop where
  wellFormed : m'.WellFormed
  nextItem : m.heap.nextItem ≤ m'.heap.nextItem
  origin : forall oid x, m'.inv.getItem oid = some x ->
    m.inv.getItem oid = some x ∨ m.heap.nextItem ≤ x.ptr ∧ ¬ prot x.node

/-- Every protected item stays where it is, with its cell as far as it is observed. -/
def Untouched (obs : ItemCell V -> B) (m m' : Mem V) : Prop :=
  forall oid y, m.inv.getItem oid = some y -> prot y.node ->
    m'.inv.getItem oid = some y ∧ obs (m'.heap.cells y.ptr) = obs (m.heap.cells y.ptr)

def Free (m : Mem V) (oid : OID) : Prop :=
  forall y, m.inv.getItem oid = some y -> ¬ prot y.node

variable {prot} {obs : ItemCell V -> B}

/-!
## Evolution
-/

variable {m m' : Mem V} {oid : OID} {ptr : Nat}
  {touched : OID -> Prop}

lemma Evolves.refl (hwf : m.WellFormed) : m.Evolves prot m where
  wellFormed := hwf
  nextItem := le_refl _
  origin := fun _ _ h => Or.inl h

lemma Evolves.trans (h : m.Evolves prot m') (h' : m'.Evolves prot m'') : m.Evolves prot m'' where
  wellFormed := h'.wellFormed
  nextItem := le_trans h.nextItem h'.nextItem
  origin := by
    intro oid x hx
    rcases h'.origin oid x hx with hold | hnew
    · exact h.origin oid x hold
    · exact Or.inr ⟨le_trans h.nextItem hnew.left, hnew.right⟩

lemma Evolves.of_inv (hwf : m.WellFormed) (hinv : m'.inv = m.inv)
    (hnext : m'.heap.nextItem = m.heap.nextItem) : m.Evolves prot m' where
  wellFormed := by
    have h := hwf.of_heap (le_of_eq hnext.symm)
    rwa [← hinv] at h
  nextItem := le_of_eq hnext.symm
  origin := by
    intro oid x hx
    rw [hinv] at hx
    exact Or.inl hx

lemma Appended.evolves (h : m.Appended item cell m') (hitem : ¬ prot item.node) :
    m.Evolves prot m' where
  wellFormed := h.wellFormed
  nextItem := by
    rw [h.heap]
    exact Nat.le_succ _
  origin := by
    intro oid x hx
    rw [h.getItem] at hx
    split at hx
    · cases hx
      exact Or.inr ⟨le_refl _, hitem⟩
    · exact Or.inl hx

lemma Removed.evolves (h : m.Removed oid item m') : m.Evolves prot m' where
  wellFormed := h.wellFormed
  nextItem := by
    rw [h.heap]
  origin := by
    intro o x hx
    rw [h.getItem] at hx
    split at hx
    · cases hx
    · exact Or.inl hx

theorem Evolves.lost (h : m.Evolves prot m') (hold : y.ptr < m.heap.nextItem)
    (hlost : m.inv.getItem oid ≠ some y) : m'.inv.getItem oid ≠ some y := by
  intro hfound
  rcases h.origin oid y hfound with hthere | hnew
  · exact hlost hthere
  · exact absurd hnew.left (not_le_of_gt hold)

lemma Evolves.free (h : m.Evolves prot m') (hfree : m.Free prot oid) : m'.Free prot oid := by
  intro y hy
  rcases h.origin oid y hy with hthere | hnew
  · exact hfree y hthere
  · exact hnew.right

/-!
## Untouched items
-/

lemma Untouched.refl : m.Untouched prot obs m :=
  fun _ _ hy _ => ⟨hy, rfl⟩

lemma Untouched.trans (h : m.Untouched prot obs m') (h' : m'.Untouched prot obs m'') :
    m.Untouched prot obs m'' := by
  intro oid y hy hprot
  have hmid := h oid y hy hprot
  have hlast := h' oid y hmid.left hprot
  exact ⟨hlast.left, hlast.right.trans hmid.right⟩

def Apart (prot : Option String -> Prop) (ptr : Nat) (m : Mem V) : Prop :=
  forall oid y, m.inv.getItem oid = some y -> prot y.node -> y.ptr ≠ ptr

lemma Evolves.apart (h : m.Evolves prot m') (hapart : m.Apart prot ptr) : m'.Apart prot ptr := by
  intro oid y hy hprot
  rcases h.origin oid y hy with hthere | hnew
  · exact hapart oid y hthere hprot
  · exact absurd hprot hnew.right

lemma WellFormed.apart_of_inIndex (hwf : m.WellFormed) (hx : m.inv.InIndex node oid x)
    (hnode : ¬ prot node) : m.Apart prot x.ptr := by
  intro o y hy hprot hptr
  have heq : y = x :=
    hwf.distinct y.node o y node oid x (hwf.inv.indexed o y hy) hx hptr
  have hxnode : x.node = node := (hwf.inv.entry node oid x hx).right
  rw [heq, hxnode] at hprot
  exact hnode hprot

lemma Appended.cells (h : m.Appended item cell m') (hptr : ptr < m.heap.nextItem) :
    m'.heap.cells ptr = m.heap.cells ptr := by
  rw [h.heap]
  exact Function.update_of_ne (Nat.ne_of_lt hptr) cell m.heap.cells

lemma Appended.untouched (hwf : m.WellFormed) (h : m.Appended item cell m')
    (hfree : m.Free prot item.oid) : m.Untouched prot obs m' := by
  intro oid y hy hprot
  rw [h.getItem, h.cells (hwf.getItem_fresh hy)]
  split
  · rename_i hoid
    rw [hoid] at hy
    exact absurd hprot (hfree y hy)
  · exact ⟨hy, rfl⟩

lemma Appended.lost (hwf : m.WellFormed) (h : m.Appended item cell m')
    (hy : m.inv.getItem item.oid = some y) : m'.inv.getItem item.oid ≠ some y := by
  intro hfound
  rw [h.getItem, if_pos rfl] at hfound
  injection hfound with hfound
  have hlt := hwf.getItem_fresh hy
  rw [← hfound] at hlt
  exact absurd hlt (lt_irrefl _)

lemma Removed.untouched (h : m.Removed oid item m') (hfree : m.Free prot oid) :
    m.Untouched prot obs m' := by
  intro o y hy hprot
  rw [h.getItem, h.heap]
  split
  · rename_i ho
    rw [ho] at hy
    exact absurd hprot (hfree y hy)
  · exact ⟨hy, rfl⟩

lemma Removed.lost (h : m.Removed oid item m') : m'.inv.getItem oid ≠ some y := by
  intro hfound
  rw [h.getItem, if_pos rfl] at hfound
  cases hfound

/-!
## Touched OIDs
-/

/--
A change that removes or replaces the items of the touched OIDs and leaves all other
protected items alone.
-/
structure Touches (prot : Option String -> Prop) (obs : ItemCell V -> B)
    (touched : OID -> Prop) (m m' : Mem V) : Prop where
  evolves : m.Evolves prot m'
  untouched : (forall oid, touched oid -> m.Free prot oid) -> m.Untouched prot obs m'
  lost : forall oid y, touched oid -> m.inv.getItem oid = some y -> prot y.node ->
    m'.inv.getItem oid ≠ some y

lemma Touches.untouched_iff (h : m.Touches prot obs touched m') :
    m.Untouched prot obs m' <-> forall oid, touched oid -> m.Free prot oid := by
  constructor
  · intro huntouched oid htouched y hy hprot
    exact h.lost oid y htouched hy hprot (huntouched oid y hy hprot).left
  · exact h.untouched

lemma Touches.of_untouched (hevolves : m.Evolves prot m') (h : m.Untouched prot obs m') :
    m.Touches prot obs (fun _ => False) m' where
  evolves := hevolves
  untouched := fun _ => h
  lost := fun _ _ hfalse => absurd hfalse not_false

lemma Touches.congr (h : m.Touches prot obs touched m')
    (hiff : forall oid, touched oid <-> touched' oid) : m.Touches prot obs touched' m' := by
  have heq : touched = touched' := funext fun oid => propext (hiff oid)
  rw [← heq]
  exact h

lemma Removed.touches (h : m.Removed oid item m') : m.Touches prot obs (fun o => o = oid) m' where
  evolves := h.evolves
  untouched := fun hfree => h.untouched (hfree oid rfl)
  lost := by
    intro o y ho _ _
    rw [ho]
    exact h.lost

section

variable (hwf : m.WellFormed)
include hwf

lemma Touches.refl : m.Touches prot obs (fun _ => False) m :=
  Touches.of_untouched (Evolves.refl hwf) Untouched.refl

lemma Touches.trans (h : m.Touches prot obs touched m') (h' : m'.Touches prot obs touched' m'') :
    m.Touches prot obs (fun oid => touched oid ∨ touched' oid) m'' where
  evolves := h.evolves.trans h'.evolves
  untouched := by
    intro hfree
    have hfirst := h.untouched fun oid htouched => hfree oid (Or.inl htouched)
    have hsecond := h'.untouched fun oid htouched => h.evolves.free (hfree oid (Or.inr htouched))
    exact hfirst.trans hsecond
  lost := by
    intro oid y htouched hy hprot
    have hold : y.ptr < m'.heap.nextItem :=
      lt_of_lt_of_le (hwf.getItem_fresh hy) h.evolves.nextItem
    rcases htouched with hfirst | hsecond
    · exact h'.evolves.lost hold (h.lost oid y hfirst hy hprot)
    · by_cases hthere : m'.inv.getItem oid = some y
      · exact h'.lost oid y hsecond hthere hprot
      · exact h'.evolves.lost hold hthere

lemma Touches.of_cells (hinv : m'.inv = m.inv) (hnext : m'.heap.nextItem = m.heap.nextItem)
    (hapart : m.Apart prot ptr)
    (hcells : forall p, p ≠ ptr -> m'.heap.cells p = m.heap.cells p) :
    m.Touches prot obs (fun _ => False) m' := by
  apply Touches.of_untouched (Evolves.of_inv hwf hinv hnext)
  intro oid y hy hprot
  rw [hinv, hcells y.ptr (hapart oid y hy hprot)]
  exact ⟨hy, rfl⟩

lemma Appended.touches (h : m.Appended item cell m') (hitem : ¬ prot item.node) :
    m.Touches prot obs (fun oid => oid = item.oid) m' where
  evolves := h.evolves hitem
  untouched := fun hfree => h.untouched hwf (hfree item.oid rfl)
  lost := by
    intro oid y hoid hy _
    rw [hoid] at hy ⊢
    exact h.lost hwf hy

lemma WellFormed.touches_removeItem :
    m.Touches prot obs (fun o => o = oid) (m.removeItem oid).2 := by
  cases hget : m.inv.getItem oid with
  | none =>
    rw [hwf.removeItem_absent hget]
    refine ⟨Evolves.refl hwf, fun _ => Untouched.refl, ?_⟩
    intro o y ho hy
    rw [ho, hget] at hy
    cases hy
  | some item =>
    rcases hwf.removeItem hget with ⟨m', heq, hremoved⟩
    rw [heq]
    exact hremoved.touches

end

lemma SourceCreated.touches (h : m.SourceCreated m') (hwf : m.WellFormed) :
    m.Touches prot obs (fun _ => False) m' := by
  apply Touches.of_untouched (Evolves.of_inv hwf h.inv h.nextItem)
  intro oid y hy _
  rw [h.inv, h.cells]
  exact ⟨hy, rfl⟩

end Mem

end Eva4.Items
