import Eva4.Lib.Phases
import Eva4.Core.PersistentRecords

/-!
# Storing configurations

An operation changes local items in memory and stores their configurations in later steps.
Its phase tells which items it has changed and not stored yet.  As long as nobody else changes
the same items meanwhile, what is stored of all other items is their configuration.
-/

namespace Eva4.Core

open Lib Items World Multiset

variable {V : Type} [EvaCommon V]

/-!
## Phases
-/

/-- What an operation has changed and not stored yet, the last change first: the item that is
now under the OID with its configuration, or none. -/
abbrev Unsaved (V : Type) : Type :=
  List (OID × Option (Item V × ItemRecord V))

inductive SavePhase (V : Type) where
  /-- The operation has not started. -/
  | idle
  | working (unsaved : Unsaved V)

def SavePhase.unsaved : SavePhase V -> Unsaved V
  | idle => []
  | working unsaved => unsaved

def World.newItem (w : World V) (item : Item V) : Item V :=
  { item with ptr := w.heap.nextItem }

def Label.unsaved (label : Label V) (w : World V) (unsaved : Unsaved V) : Unsaved V :=
  match label with
  | .createLocal oid =>
    if (w.inv.getItem oid).isNone then
      (oid, some (w.newItem (blankItem oid), recordOf (w.newItem (blankItem oid)) true)) :: unsaved
    else unsaved
  | .append config _ =>
    (config.oid, some (w.newItem config.item,
      recordOf (w.newItem config.item) config.enabled)) :: unsaved
  | .removeLocal oid => if (w.inv.getItem oid).isSome then (oid, none) :: unsaved else unsaved
  | .enableLocal mask value =>
    (w.localByMask mask).map (fun item => (item.oid, some (item, recordOf item value))) ++
      unsaved
  | .saveConfig oid _ => unsaved.eraseP fun entry => entry.1 = oid
  | .saveConfigs _ => []
  | .destroyStored oid => unsaved.eraseP fun entry => entry.1 = oid
  | .destroyAllStored _ => []
  | _ => unsaved

variable {oid : OID} {w : World V}

lemma Label.unsaved_createLocal_new (h : w.inv.getItem oid = none) {unsaved : Unsaved V} :
    (Label.createLocal oid).unsaved w unsaved =
      (oid, some (w.newItem (blankItem oid), recordOf (w.newItem (blankItem oid)) true)) ::
        unsaved := by
  simp only [Label.unsaved, h, Option.isNone_none, if_true]

lemma Label.unsaved_createLocal_refused (h : w.inv.getItem oid = some old) (unsaved : Unsaved V) :
    (Label.createLocal oid).unsaved w unsaved = unsaved := by
  simp only [Label.unsaved, h, Option.isNone_some, Bool.false_eq_true, if_false]

lemma Label.unsaved_removeLocal_present (h : w.inv.getItem oid = some item) {unsaved : Unsaved V} :
    (Label.removeLocal oid).unsaved w unsaved = (oid, none) :: unsaved := by
  simp only [Label.unsaved, h, Option.isSome_some, if_true]

lemma Label.unsaved_removeLocal_absent (h : w.inv.getItem oid = none) (unsaved : Unsaved V) :
    (Label.removeLocal oid).unsaved w unsaved = unsaved := by
  simp only [Label.unsaved, h, Option.isSome_none, Bool.false_eq_true, if_false]

def SavePhase.next : Observer (World V) (Label V) (SavePhase V) :=
  fun _ phase label w => .working (label.unsaved w phase.unsaved)

/-- None of the operations has changed the item without storing it. -/
def Free (oid : OID) (phases : Multiset (SavePhase V)) : Prop :=
  forall phase, phase ∈ phases -> phase.unsaved.lookup oid = none

/--
An item is created, deployed, removed or enabled only while no other operation has to store
it.  A record is deleted for an item that the operation itself has removed, or that is not
there and is not being changed.  The sensor of a source exists already.
-/
def ChangesAlone : Condition (World V) (Label V) (SavePhase V) :=
  fun others phase label w =>
    match label with
    | .createLocal oid => Free oid others
    | .append config _ => Free config.oid others
    | .removeLocal oid => Free oid others
    | .enableLocal mask _ => forall item, item ∈ w.localByMask mask -> Free item.oid others
    | .destroyStored oid => phase.unsaved.lookup oid = none ->
        Free oid others ∧ w.localItem oid = none
    | .createSensor oid => w.inv.getItem oid ≠ none
    | _ => True

/-!
## The invariant
-/

/-- What is stored of an item is its configuration, unless an operation is about to store it;
what the operation will store is the configuration the item has. -/
structure Stores (phases : Multiset (SavePhase V)) (w : World V) : Prop where
  wellFormed : w.toMem.WellFormed
  agree : forall oid, Free oid phases -> w.stored oid = w.localRecord oid
  holds : forall phase, phase ∈ phases -> forall oid entry,
    phase.unsaved.lookup oid = some entry -> w.localItem oid = entry

namespace Stores

variable {w' : World V}

section

omit [EvaCommon V]

lemma free_cons (hown : own.unsaved.lookup oid = none) (hothers : Free oid others) :
    Free oid (own ::ₘ others) := by
  intro phase hphase
  rcases mem_cons.mp hphase with heq | hother
  · rw [heq]
    exact hown
  · exact hothers phase hother

lemma lookup_cons_if : List.lookup oid ((k, entry) :: unsaved) =
      if oid = k then some entry else unsaved.lookup oid := by
  by_cases heq : oid = k
  · rw [if_pos heq, heq, List.lookup_cons_self]
  · rw [if_neg heq, List.lookup_cons, beq_eq_false_iff_ne.mpr heq]

theorem lookup_enabled {items : List (Item V)}
    (h : (items.map fun item => (item.oid, some (item, recordOf item value))).lookup oid =
      some entry) :
    exists item, item ∈ items ∧ item.oid = oid ∧ entry = some (item, recordOf item value) := by
  rcases List.lookup_eq_some_iff.mp h with ⟨l₁, l₂, heq, _⟩
  have hmem : (oid, entry) ∈
      items.map fun item => (item.oid, some (item, recordOf item value)) := by
    rw [heq]
    exact List.mem_append_right _ List.mem_cons_self
  rcases List.mem_map.mp hmem with ⟨item, hitem, hpair⟩
  injection hpair with hoid hsame
  exact ⟨item, hitem, hoid, hsame.symm⟩

lemma localItem_of_toMem (hmem : w'.toMem = w.toMem) : w'.localItem oid = w.localItem oid := by
  apply localItem_congr
  · rw [hmem]
  · intro item _
    unfold enabled
    rw [hmem]

theorem foldl_update (writes : List (OID × Option (ItemRecord V)))
    (store : OID -> Option (ItemRecord V)) (oid : OID) :
    writes.foldl (fun store e => Function.update store e.1 e.2) store oid =
      (writes.reverse.lookup oid).getD (store oid) := by
  induction writes using List.reverseRecOn with
  | nil => rfl
  | append_singleton writes last ih =>
    rw [List.foldl_append, List.reverse_append, List.foldl_cons, List.foldl_nil,
      Function.update_apply]
    by_cases heq : oid = last.1
    · rw [if_pos heq, heq]
      show last.2 = (List.lookup last.1 ((last.1, last.2) :: writes.reverse)).getD _
      rw [List.lookup_cons_self]
      rfl
    · rw [if_neg heq, ih]
      show _ = (List.lookup oid ((last.1, last.2) :: writes.reverse)).getD _
      rw [List.lookup_cons, beq_eq_false_iff_ne.mpr heq]

lemma lookup_map_snd (unsaved : Unsaved V) (oid : OID) :
    (unsaved.map fun e => (e.1, e.2.map Prod.snd)).lookup oid =
      (unsaved.lookup oid).map fun entry => entry.map Prod.snd := by
  induction unsaved with
  | nil => rfl
  | cons e unsaved ih =>
    show List.lookup oid ((e.1, e.2.map Prod.snd) :: _) =
      (List.lookup oid ((e.1, e.2) :: unsaved)).map _
    rw [List.lookup_cons, List.lookup_cons]
    cases oid == e.1 with
    | true => rfl
    | false => exact ih

end

variable {own : SavePhase V} {others : Multiset (SavePhase V)} (h : Stores (own ::ₘ others) w)
include h

section

omit [EvaCommon V]

variable (hwf : w'.toMem.WellFormed)
include hwf

lemma replace (hothers : forall oid, ¬ Free oid others -> w'.localItem oid = w.localItem oid)
    (hown : forall oid entry, own'.unsaved.lookup oid = some entry -> w'.localItem oid = entry)
    (hagree : forall oid, own'.unsaved.lookup oid = none -> Free oid others ->
      w'.stored oid = w'.localRecord oid) : Stores (own' ::ₘ others) w' := by
  constructor
  · exact hwf
  · intro oid hfree
    apply hagree oid (hfree own' (mem_cons_self own' others))
    exact fun other hother => hfree other (mem_cons_of_mem hother)
  · intro phase hphase oid entry hentry
    rcases mem_cons.mp hphase with heq | hother
    · rw [heq] at hentry
      exact hown oid entry hentry
    · have hnot : ¬ Free oid others := by
        intro hfree
        rw [hfree phase hother] at hentry
        cases hentry
      rw [hothers oid hnot]
      exact h.holds phase (mem_cons_of_mem hother) oid entry hentry

variable (hstored : w'.stored = w.stored)
include hstored

theorem change (changes : Unsaved V)
    (hsame : forall oid, changes.lookup oid = none -> w'.localItem oid = w.localItem oid)
    (hnew : forall oid entry, changes.lookup oid = some entry -> w'.localItem oid = entry)
    (hfree : forall oid entry, changes.lookup oid = some entry -> Free oid others) :
    Stores (.working (changes ++ own.unsaved) ::ₘ others) w' := by
  have hlookup : forall oid, (SavePhase.working (changes ++ own.unsaved)).unsaved.lookup oid =
      (changes.lookup oid).or (own.unsaved.lookup oid) := fun _ => List.lookup_append
  apply h.replace hwf
  · intro oid hnot
    cases hchange : changes.lookup oid with
    | none => exact hsame oid hchange
    | some entry => exact absurd (hfree oid entry hchange) hnot
  · intro oid entry hentry
    rw [hlookup] at hentry
    cases hchange : changes.lookup oid with
    | some entry' =>
      rw [hchange] at hentry
      injection hentry with hentry
      rw [← hentry]
      exact hnew oid entry' hchange
    | none =>
      rw [hchange, Option.none_or] at hentry
      rw [hsame oid hchange]
      exact h.holds own (mem_cons_self own others) oid entry hentry
  · intro oid hnone hothers
    rw [hlookup] at hnone
    rcases Option.or_eq_none_iff.mp hnone with ⟨hchange, hown⟩
    rw [hstored, localRecord, hsame oid hchange]
    exact h.agree oid (free_cons hown hothers)

lemma keep (hsame : forall oid, w'.localItem oid = w.localItem oid) :
    Stores (.working own.unsaved ::ₘ others) w' := by
  apply h.change hwf hstored []
  · exact fun oid _ => hsame oid
  · intro oid entry hentry
    cases hentry
  · intro oid entry hentry
    cases hentry

lemma change_one (hlocal : forall o, w'.localItem o = if o = oid then entry else w.localItem o)
    (hfree : Free oid others) : Stores (.working ((oid, entry) :: own.unsaved) ::ₘ others) w' := by
  apply h.change hwf hstored [(oid, entry)]
  · intro o hnone
    rw [lookup_cons_if] at hnone
    rw [hlocal o]
    split at hnone
    · cases hnone
    next hne => rw [if_neg hne]
  · intro o entry' hsome
    rw [lookup_cons_if] at hsome
    rw [hlocal o]
    split at hsome
    next heq =>
      injection hsome with hsome
      rw [if_pos heq, hsome]
    next => cases hsome
  · intro o entry' hsome
    rw [lookup_cons_if] at hsome
    split at hsome
    next heq =>
      rw [heq]
      exact hfree
    next => cases hsome

end

/-!
## Changes of items
-/

lemma refuse (hold : w.inv.getItem oid = some old) :
    Stores (.working own.unsaved ::ₘ others)
      (w.withMem (w.toMem.createItem clock oid ieid none).2) := by
  rcases createItem_refused h.wellFormed hold with ⟨_, hinv, hnext, hcells⟩
  apply h.keep
  · have hwf := h.wellFormed.of_heap hnext
    rw [← hinv] at hwf
    exact hwf
  · rfl
  · intro o
    apply localItem_congr
    · exact congrArg (fun inv => inv.getItem o) hinv
    · intro x hx
      exact congrArg ItemCell.enabled (hcells x.ptr (h.wellFormed.getItem_fresh hx))

lemma append {config : ItemConfigData V}
    {state : Option (ItemState V)} (hfree : Free config.oid others) :
    Stores (SavePhase.next others own (.append config state) w ::ₘ others)
      (w.withMem (w.toMem.appendNew config.item
        { state := state, enabled := config.enabled } true).2) := by
  rcases h.wellFormed.appendNew config.item { state := state, enabled := config.enabled }
    (Or.inl rfl) with ⟨m', heq, hm'⟩
  rw [heq]
  have hlocal : forall o, (w.withMem m').localItem o = if o = config.oid then
      some (w.newItem config.item, recordOf (w.newItem config.item) config.enabled)
      else w.localItem o :=
    fun o => localItem_appended h.wellFormed rfl rfl rfl hm' rfl
  have hwf : (w.withMem m').toMem.WellFormed := hm'.wellFormed
  exact h.change_one hwf rfl hlocal hfree

lemma create (hieid : oid.kind = .lMacro ∨ ieid.isSome = true)
    (hfree : Free oid others) :
    Stores (SavePhase.next others own (.createLocal oid) w ::ₘ others)
      (w.withMem (w.toMem.createItem clock oid ieid none).2) := by
  cases hfound : w.inv.getItem oid with
  | none =>
    rcases createItem_new h.wellFormed hfound hieid with
      ⟨base, cell, m', hinv, hcells, hnext, henabled, hm', heq⟩
    rw [SavePhase.next, Label.unsaved_createLocal_new hfound, heq]
    have hlocal : forall o, (w.withMem m').localItem o = if o = oid then
        some (w.newItem (blankItem oid), recordOf (w.newItem (blankItem oid)) true)
        else w.localItem o := by
      intro o
      rw [← henabled]
      exact localItem_appended h.wellFormed hinv hcells hnext hm' rfl
    have hwf : (w.withMem m').toMem.WellFormed := hm'.wellFormed
    exact h.change_one hwf rfl hlocal hfree
  | some old =>
    rw [SavePhase.next, Label.unsaved_createLocal_refused hfound]
    exact h.refuse hfound

lemma remove (hfree : Free oid others) :
    Stores (SavePhase.next others own (.removeLocal oid) w ::ₘ others)
      (w.withMem (w.toMem.removeItem oid).2) := by
  cases hfound : w.inv.getItem oid with
  | none =>
    rw [SavePhase.next, Label.unsaved_removeLocal_absent hfound,
      h.wellFormed.removeItem_absent hfound]
    exact h.keep h.wellFormed rfl fun _ => rfl
  | some item =>
    rcases h.wellFormed.removeItem hfound with ⟨m', heq, hm'⟩
    rw [SavePhase.next, Label.unsaved_removeLocal_present hfound, heq]
    have hwf : (w.withMem m').toMem.WellFormed := hm'.wellFormed
    exact h.change_one hwf rfl (localItem_removed hm') hfree

lemma enable {mask : OIDMask} {value : Bool}
    (hfree : forall item, item ∈ w.localByMask mask -> Free item.oid others) :
    Stores (SavePhase.next others own (.enableLocal mask value) w ::ₘ others)
      (w.setLocalEnabled mask value).2 := by
  have hlocal := localItem_setLocalEnabled h.wellFormed mask value
  rcases foldl_setEnabled value (w.localByMask mask) w with ⟨hinv, hnext, hsent, _⟩
  rw [← setLocalEnabled_world] at hinv hnext hsent
  apply h.change
  · have hwf := h.wellFormed.of_heap (le_of_eq hnext.symm)
    rw [← hinv] at hwf
    exact hwf
  · unfold stored
    rw [hsent]
  · intro oid hnone
    apply hlocal.right oid
    intro item hitem heq
    have hne := List.lookup_eq_none_iff.mp hnone _ (List.mem_map_of_mem hitem)
    simp [heq] at hne
  · intro oid entry hsome
    rcases lookup_enabled hsome with ⟨item, hitem, hoid, hsame⟩
    rw [← hoid, hsame]
    exact hlocal.left item hitem
  · intro oid entry hsome
    rcases lookup_enabled hsome with ⟨item, hitem, hoid, _⟩
    rw [← hoid]
    exact hfree item hitem

/-!
## Writing records
-/

section

omit [EvaCommon V]

theorem record (hmem : w'.toMem = w.toMem)
    (hrest : forall o e, rest.lookup o = some e -> own.unsaved.lookup o = some e)
    (hagree : forall o, rest.lookup o = none -> Free o others -> w'.stored o = w.localRecord o) :
    Stores (.working rest ::ₘ others) w' := by
  apply h.replace
  · rw [hmem]
    exact h.wellFormed
  · exact fun o _ => localItem_of_toMem hmem
  · intro o e he
    rw [localItem_of_toMem hmem]
    exact h.holds own (mem_cons_self own others) o e (hrest o e he)
  · intro o hnone hfree
    rw [hagree o hnone hfree, localRecord, localRecord, localItem_of_toMem hmem]

lemma write (hown : own.unsaved = (oid, entry) :: rest)
    (hrest : forall o e, rest.lookup o = some e -> own.unsaved.lookup o = some e)
    (hmem : w'.toMem = w.toMem)
    (hstored : w'.stored = Function.update w.stored oid (entry.map Prod.snd)) :
    Stores (.working rest ::ₘ others) w' := by
  apply h.record hmem hrest
  intro o hnone hfree
  rw [hstored, Function.update_apply]
  by_cases heq : o = oid
  · have hentry : own.unsaved.lookup o = some entry := by
      rw [hown, heq, List.lookup_cons_self]
    rw [if_pos heq, localRecord, h.holds own (mem_cons_self own others) o entry hentry]
  · have hunsaved : own.unsaved.lookup o = none := by
      rw [hown, lookup_cons_if, if_neg heq]
      exact hnone
    rw [if_neg heq]
    exact h.agree o (free_cons hunsaved hfree)

theorem forget (habsent : w.localItem oid = none)
    (hmem : w'.toMem = w.toMem) (hstored : w'.stored = Function.update w.stored oid none) :
    Stores (.working own.unsaved ::ₘ others) w' := by
  apply h.record hmem fun _ _ he => he
  intro o hnone hfree
  rw [hstored, Function.update_apply]
  by_cases heq : o = oid
  · rw [if_pos heq, heq, localRecord, habsent]
    rfl
  · rw [if_neg heq]
    exact h.agree o (free_cons hnone hfree)

theorem writeAll {writes : List (OID × Option (ItemRecord V))}
    (hown : own.unsaved.map (fun e => (e.1, e.2.map Prod.snd)) = writes.reverse)
    (hmem : w'.toMem = w.toMem) (hstored : w'.stored =
      writes.foldl (fun store e => Function.update store e.1 e.2) w.stored) :
    Stores (.working [] ::ₘ others) w' := by
  apply h.record hmem
  · intro o e he
    cases he
  · intro o _ hfree
    rw [hstored, foldl_update, ← hown, lookup_map_snd]
    cases hentry : own.unsaved.lookup o with
    | some entry =>
      rw [localRecord, h.holds own (mem_cons_self own others) o entry hentry]
      rfl
    | none => exact h.agree o (free_cons hentry hfree)

end

end Stores

def storeProtocol : Protocol (World V) (Label V) Lock (SavePhase V) where
  next := SavePhase.next
  inv := Stores
  admits := ChangesAlone
  step := fun _ _ _ => True
  final := fun phase => phase.unsaved = []

end Eva4.Core
