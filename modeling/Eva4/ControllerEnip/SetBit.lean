import Mathlib.Logic.Function.Basic
import Eva4.Lib.Machine

/-!
# Bits of EtherNet/IP tags

The handle of a tag is made once and shared by all calls.  It keeps a copy of the tag, which a read
fills; a bit is set in the copy, and a write sends the whole copy.
-/

namespace Eva4.ControllerEnip

open Lib

abbrev Bits : Type :=
  Nat -> Bool

inductive WriteStage where
  | called
  /-- No handle is prepared for the path of the tag. -/
  | creating
  | opened (id : Nat)
  | set (id : Nat)
  /-- The value of the tag right before and right after the write. -/
  | written (before after : Bits)
  | returned (before after : Bits)
  | failed

/-- A call of `write_tag` with the type `bit`. -/
structure BitWrite where
  bit : Nat
  value : Bool
  stage : WriteStage

def BitWrite.Kept (c : BitWrite) : Prop :=
  match c.stage with
  | .written before after | .returned before after => forall b, b ≠ c.bit -> after b = before b
  | _ => True

structure Tag where
  plc : Bits
  copies : List Bits
  prepared : Option Nat
  calls : List BitWrite

inductive TagEvent where
  | call (bit : Nat) (value : Bool)
  | getTagId (n : Nat)
  /-- The new handle is read once; another call may create one at the same time. -/
  | create (n : Nat)
  | setBit (n : Nat)
  | write (n : Nat)
  /-- The value is verified, through a handle of another path, or is not to be verified. -/
  | ret (n : Nat)
  /-- An attempt fails at any point, and may be repeated. -/
  | fail (n : Nat) (retry : Bool)
  /-- Somebody reads the tag by a handle. -/
  | read (id : Nat)
  /-- The program of the PLC changes the tag, or a write that timed out reaches it. -/
  | change (value : Bits)

namespace Tag

def new (plc : Bits) : Tag where
  plc := plc
  copies := []
  prepared := none
  calls := []

def setStage (s : Tag) (n : Nat) (c : BitWrite) (stage : WriteStage) : Tag :=
  { s with calls := s.calls.set n { c with stage := stage } }

def step : Machine Tag TagEvent := fun s e =>
  match e with
  | .call bit value => some { s with calls := s.calls ++ [⟨bit, value, .called⟩] }
  | .getTagId n => s.calls[n]?.bind fun c =>
    match c.stage, s.prepared with
    | .called, some id => some (s.setStage n c (.opened id))
    | .called, none => some (s.setStage n c .creating)
    | _, _ => none
  | .create n => s.calls[n]?.bind fun c =>
    match c.stage with
    | .creating => some { s.setStage n c (.opened s.copies.length) with
        copies := s.copies ++ [s.plc]
        prepared := some s.copies.length }
    | _ => none
  | .setBit n => s.calls[n]?.bind fun c =>
    match c.stage with
    | .opened id => s.copies[id]?.map fun copy => { s.setStage n c (.set id) with
        copies := s.copies.set id (Function.update copy c.bit c.value) }
    | _ => none
  | .write n => s.calls[n]?.bind fun c =>
    match c.stage with
    | .set id => s.copies[id]?.map fun copy => { s.setStage n c (.written s.plc copy) with
        plc := copy }
    | _ => none
  | .ret n => s.calls[n]?.bind fun c =>
    match c.stage with
    | .written before after => some (s.setStage n c (.returned before after))
    | _ => none
  | .fail n retry => s.calls[n]?.bind fun c =>
    match c.stage with
    | .returned _ _ => none
    | .failed => none
    | _ => some (s.setStage n c (if retry then .called else .failed))
  | .read id => s.copies[id]?.map fun _ => { s with copies := s.copies.set id s.plc }
  | .change value => some { s with plc := value }

def Quiet (s : Tag) : Prop :=
  forall c id, c ∈ s.calls -> c.stage ≠ .set id

/-- A bit is set in a copy that has the value of the tag in all other bits, and nobody else sets a
bit or changes the tag until it is written. -/
def Undisturbed (s : Tag) : TagEvent -> Prop
  | .setBit n => s.Quiet ∧ forall c id copy, s.calls[n]? = some c -> c.stage = .opened id ->
      s.copies[id]? = some copy -> forall b, b ≠ c.bit -> copy b = s.plc b
  | .change _ => s.Quiet
  | _ => True

def Unwritten (c : BitWrite) (_ : Unit) : Prop :=
  exists id, c.stage = .set id

structure Sound (s : Tag) : Prop where
  kept : forall c, c ∈ s.calls -> c.Kept
  alone : OneAt Unwritten s.calls
  fresh : forall {n id : Nat} {c : BitWrite} {copy : Bits}, s.calls[n]? = some c ->
    c.stage = .set id -> s.copies[id]? = some copy -> forall b, b ≠ c.bit -> copy b = s.plc b

section

variable {s s' : Tag} {n : Nat} {c : BitWrite} {stage : WriteStage} {value : Bits}

lemma sound_of_quiet (hkept : forall c, c ∈ s.calls -> c.Kept) (h : s.Quiet) : s.Sound where
  kept := hkept
  alone := by
    rintro m k c d _ hm _ ⟨id, hstage⟩
    exact absurd hstage (h c id (List.mem_of_getElem? hm))
  fresh hn hc := absurd hc (h _ _ (List.mem_of_getElem? hn))

variable (h : s.Sound)
include h

lemma Sound.setStage (hn : s.calls[n]? = some c) (hkept : BitWrite.Kept { c with stage := stage })
    (hstage : forall id, stage ≠ .set id) : (s.setStage n c stage).Sound where
  kept := forall_mem_set h.kept hkept
  alone := h.alone.set hn fun hnew => hnew.elim fun id hset => absurd hset (hstage id)
  fresh := by
    intro m id d copy hd hdstage
    rcases getElem?_set_cases hn hd with ⟨_, rfl⟩ | ⟨_, hd⟩
    · exact absurd hdstage (hstage id)
    · exact h.fresh hd hdstage

theorem Sound.reads (copies : List Bits) (hcopies : forall {id : Nat} {copy : Bits},
      copies[id]? = some copy -> copy = s.plc ∨ s.copies[id]? = some copy) :
    { s with copies := copies }.Sound where
  kept := h.kept
  alone := h.alone
  fresh := by
    intro m id d copy hd hstage hcopy
    rcases hcopies hcopy with rfl | hold
    · exact fun _ _ => rfl
    · exact h.fresh hd hstage hold

lemma Sound.setBit (hadmits : s.Undisturbed (.setBit n)) (hstep : step s (.setBit n) = some s') :
    s'.Sound := by
  rcases Option.bind_eq_some_iff.mp hstep with ⟨c, hn, hstep⟩
  split at hstep
  · next id hstage =>
    rcases Option.map_eq_some_iff.mp hstep with ⟨copy, hcopy, rfl⟩
    have hset : forall {m i : Nat} {d : BitWrite}, (s.calls.set n { c with stage := .set id })[m]? =
        some d -> d.stage = .set i -> m = n ∧ d = { c with stage := .set id } := by
      intro m i d hd hdstage
      rcases getElem?_set_cases hn hd with hnew | ⟨_, hold⟩
      · exact hnew
      · exact absurd hdstage (hadmits.left d i (List.mem_of_getElem? hold))
    refine ⟨forall_mem_set h.kept trivial, ?_, ?_⟩
    · intro m k d e _ hd he hdset heset
      rcases hdset with ⟨i, hdstage⟩
      rcases heset with ⟨j, hestage⟩
      exact (hset hd hdstage).left.trans (hset he hestage).left.symm
    · intro m i d copy' hd hdstage hcopy' b hb
      rcases hset hd hdstage with ⟨_, rfl⟩
      cases hdstage
      rcases getElem?_set_cases hcopy hcopy' with ⟨_, rfl⟩ | ⟨hne, _⟩
      · rw [Function.update_of_ne hb]
        exact hadmits.right c id copy hn hstage hcopy b hb
      · exact absurd rfl hne
  · cases hstep

theorem Sound.write (hstep : step s (.write n) = some s') : s'.Sound := by
  rcases Option.bind_eq_some_iff.mp hstep with ⟨c, hn, hstep⟩
  split at hstep
  · next id hstage =>
    rcases Option.map_eq_some_iff.mp hstep with ⟨copy, hcopy, rfl⟩
    have hfresh := h.fresh hn hstage hcopy
    apply sound_of_quiet
    · exact forall_mem_set h.kept hfresh
    · intro d i hd hdstage
      rcases List.mem_iff_getElem?.mp hd with ⟨m, hm⟩
      rcases getElem?_set_cases hn hm with ⟨_, rfl⟩ | ⟨hne, hold⟩
      · cases hdstage
      · exact hne (h.alone (k := ()) hold hn ⟨i, hdstage⟩ ⟨id, hstage⟩)
  · cases hstep

lemma Sound.step (hadmits : s.Undisturbed e) (hstep : step s e = some s') : s'.Sound := by
  cases e with
  | call bit value =>
    cases hstep
    refine ⟨forall_mem_concat h.kept trivial, ?_, ?_⟩
    · exact h.alone.concat fun hnew => hnew.elim nofun
    · intro m id d copy hd hdstage
      rcases getElem?_concat_cases hd with rfl | hd
      · cases hdstage
      · exact h.fresh hd hdstage
  | getTagId n =>
    rcases Option.bind_eq_some_iff.mp hstep with ⟨c, hn, hstep⟩
    split at hstep <;> cases hstep
    · exact h.setStage hn trivial nofun
    · exact h.setStage hn trivial nofun
  | create n =>
    rcases Option.bind_eq_some_iff.mp hstep with ⟨c, hn, hstep⟩
    split at hstep <;> cases hstep
    have hopened : (s.setStage n c (.opened s.copies.length)).Sound :=
      h.setStage hn trivial nofun
    have hcopied := hopened.reads (s.copies ++ [s.plc]) getElem?_concat_cases
    exact ⟨hcopied.kept, hcopied.alone, hcopied.fresh⟩
  | setBit n => exact h.setBit hadmits hstep
  | write n => exact h.write hstep
  | ret n =>
    rcases Option.bind_eq_some_iff.mp hstep with ⟨c, hn, hstep⟩
    split at hstep
    · next before after hstage =>
      cases hstep
      have hkept := h.kept c (List.mem_of_getElem? hn)
      unfold BitWrite.Kept at hkept
      rw [hstage] at hkept
      exact h.setStage hn hkept nofun
    · cases hstep
  | fail n retry =>
    rcases Option.bind_eq_some_iff.mp hstep with ⟨c, hn, hstep⟩
    split at hstep <;> cases hstep
    cases retry with
    | true | false => exact h.setStage hn trivial nofun
  | read id =>
    rcases Option.map_eq_some_iff.mp hstep with ⟨old, hid, rfl⟩
    apply h.reads
    intro i copy hcopy
    rcases getElem?_set_cases hid hcopy with ⟨_, hnew⟩ | ⟨_, hold⟩
    · exact Or.inl hnew
    · exact Or.inr hold
  | change value =>
    cases hstep
    exact sound_of_quiet h.kept hadmits

end

/-- In every run in which bits are set in copies that are up to date, and nobody else sets a bit or
changes the tag before they are written, a call that returns has changed its bit at most. -/
theorem bit_write_keeps_others (plc : Bits) {s : Tag} (hrun : step.Reaches Undisturbed (new plc) s)
    {c : BitWrite} (hc : c ∈ s.calls) {before after : Bits}
    (hstage : c.stage = .returned before after) (b : Nat) (hb : b ≠ c.bit) :
    after b = before b := by
  have hnew : (new plc).Sound :=
    sound_of_quiet (fun _ hc => absurd hc List.not_mem_nil) fun _ _ hc => absurd hc List.not_mem_nil
  have hsound : s.Sound := hrun.invariant hnew fun h hadmits hstep => h.step hadmits hstep
  have hkept := hsound.kept c hc
  unfold BitWrite.Kept at hkept
  rw [hstage] at hkept
  exact hkept b hb

lemma quiet_of_all {s : Tag} (h : (s.calls.all fun c => match c.stage with
      | .set _ => false
      | _ => true) = true) : s.Quiet := by
  intro c id hc hstage
  have hnot := List.all_eq_true.mp h c hc
  rw [hstage] at hnot
  cases hnot

/-- The tag is read after the program of the PLC has set a bit, and another one is set. -/
theorem bit_set_after_read : exists s before after,
      step.Reaches Undisturbed (new fun _ => false) s ∧
      s.calls = [⟨0, true, .returned before after⟩] ∧ before 1 = true ∧ after 0 = true ∧
        forall b, b ≠ 0 -> after b = before b := by
  have hread : step.Reaches Undisturbed (new fun _ => false) _ :=
    .step (e := .read 0) (.step (e := .change (Function.update (fun _ => false) 1 true))
      (.step (e := .create 0) (.step (e := .getTagId 0) (.step (e := .call 0 true) .start
        trivial rfl) trivial rfl) trivial rfl) (quiet_of_all rfl) rfl) trivial rfl
  have hrun : step.Reaches Undisturbed (new fun _ => false) _ :=
    .step (e := .ret 0) (.step (e := .write 0) (.step (e := .setBit 0) hread ⟨quiet_of_all rfl, by
      intro c id copy hc hstage hcopy
      cases hc
      cases hstage
      cases hcopy
      exact fun _ _ => rfl⟩ rfl) trivial rfl) trivial rfl
  have hkept : forall {s before after}, step.Reaches Undisturbed (new fun _ => false) s ->
      s.calls = [⟨0, true, .returned before after⟩] -> forall b, b ≠ 0 -> after b = before b := by
    intro s before after hrun hcalls
    exact bit_write_keeps_others _ hrun (by rw [hcalls]; exact List.mem_singleton_self _) rfl
  exact ⟨_, _, _, hrun, rfl, rfl, rfl, hkept hrun rfl⟩

/-- The program of the PLC sets a bit after the handle was read, and a call that sets another one
takes it back. -/
theorem other_bit_taken_back : exists s before after, step.runChecked (fun _ _ => true)
        [.call 0 true, .getTagId 0, .create 0, .change (Function.update (fun _ => false) 1 true),
          .setBit 0, .write 0, .ret 0] (new fun _ => false) = some s ∧
      s.calls[0]? = some ⟨0, true, .returned before after⟩ ∧ before 1 = true ∧ after 1 = false :=
  ⟨_, _, _, rfl, rfl, rfl, rfl⟩

end Tag

end Eva4.ControllerEnip
