import Mathlib.Algebra.Group.Int.Defs
import Eva4.ControllerModbus.Registers

/-!
# Setting a bit of a holding register

The bits of a register are set by reading it, changing one of them and writing it back.  What is
read for that is read as a bit, so all that is left of the register is its lowest bit.
-/

namespace Eva4.ControllerModbus

open Lib Dialog.Runs
open Dialog hiding attempt
open Items (Error EResult)

/-!
## A device that stores what is written
-/

@[ext]
structure Device where
  coil : BitVec 8 -> Word -> Bool
  discrete : BitVec 8 -> Word -> Bool
  input : BitVec 8 -> Word -> Word
  holding : BitVec 8 -> Word -> Word

namespace Device

variable (d : Device) (unit : BitVec 8)

def bools (reg : Register) (count : Nat) : List Bool :=
  (List.range count).map fun i =>
    match reg.kind with
    | .coil => d.coil unit (reg.number + BitVec.ofNat 16 i)
    | _ => d.discrete unit (reg.number + BitVec.ofNat 16 i)

def words (reg : Register) (count : Nat) : List Word :=
  (List.range count).map fun i =>
    match reg.kind with
    | .holding => d.holding unit (reg.number + BitVec.ofNat 16 i)
    | _ => d.input unit (reg.number + BitVec.ofNat 16 i)

def setCoil (number : Word) (value : Bool) : Device :=
  { d with coil := fun u n => if u = unit ∧ n = number then value else d.coil u n }

def setHolding (number : Word) (value : Word) : Device :=
  { d with holding := fun u n => if u = unit ∧ n = number then value else d.holding u n }

def setHoldings (d : Device) (unit : BitVec 8) (number : Word) : List Word -> Device
  | [] => d
  | w :: rest => (d.setHolding unit number w).setHoldings unit (number + 1) rest

/-- A request that fails may have reached the device, a long write in parts. -/
def serves : (c : Call) -> c.Answer -> Device -> Prop
  | .opTimeout, _, d' => d' = d
  | .sleep, _, d' => d' = d
  | .getBool unit reg count, answer, d' =>
    d' = d ∧ forall values, answer = .ok values -> values = d.bools unit reg count
  | .getU16 unit reg count, answer, d' =>
    d' = d ∧ forall values, answer = .ok values -> values = d.words unit reg count
  | .setBool unit reg value, answer, d' =>
    d' = d.setCoil unit reg.number value ∨ (answer.toBool = false ∧ d' = d)
  | .setU16Bulk unit reg values, answer, d' =>
    d' = d.setHoldings unit reg.number values ∨
      (answer.toBool = false ∧ exists n, d' = d.setHoldings unit reg.number (values.take n))

def serve : (c : Call) -> c.Answer × Device
  | .opTimeout => (.ok (), d)
  | .sleep => (.ok (), d)
  | .getBool unit reg count => (.ok (d.bools unit reg count), d)
  | .getU16 unit reg count => (.ok (d.words unit reg count), d)
  | .setBool unit reg value => (.ok (), d.setCoil unit reg.number value)
  | .setU16Bulk unit reg values => (.ok (), d.setHoldings unit reg.number values)

lemma serves_serve (c : Call) : d.serves c (d.serve c).1 (d.serve c).2 := by
  cases c with
  | opTimeout | sleep => exact rfl
  | getBool | getU16 =>
    refine ⟨rfl, ?_⟩
    intro values h
    injection h with h
    exact h.symm
  | setBool | setU16Bulk => exact Or.inl rfl

lemma setHolding_same : (d.setHolding unit number w).holding unit number = w :=
  if_pos ⟨rfl, rfl⟩

lemma setHolding_setHolding :
    (d.setHolding unit number v).setHolding unit number w = d.setHolding unit number w := by
  unfold setHolding
  simp only [Device.mk.injEq, true_and]
  funext u n
  split <;> rfl

end Device

abbrev RunsOn {R : Type} (d : Io R) (before after : Device) (r : EResult R) : Prop :=
  d.Runs Device.serves before after r

variable {after before : Device}

lemma runsOn_ask (h : RunsOn (ask c) before after r) : before.serves c r after := by
  rcases of_bind h with hfail | hboth
  · rcases hfail with ⟨e, _, hreq⟩
    rcases of_request hreq with ⟨a, _, hcontra⟩
    cases hcontra
  · rcases hboth with ⟨mid, a, hreq, hlift⟩
    rcases of_request hreq with ⟨a', hserves, ha⟩
    injection ha with ha
    rcases of_lift hlift with ⟨hmid, hr⟩
    rw [hmid, hr, ha]
    exact hserves

/-!
## Reading leaves the device as it is
-/

def Call.Quiet : Call -> Prop
  | .setBool _ _ _ => False
  | .setU16Bulk _ _ _ => False
  | _ => True

lemma Call.Quiet.same (hc : c.Quiet) (h : before.serves c a after) : after = before := by
  cases c with
  | opTimeout | sleep => exact h
  | getBool | getU16 => exact h.left
  | setBool | setU16Bulk => exact hc.elim

abbrev Reads {R : Type} (d : Io R) : Prop :=
  d.Asks (fun _ _ => True) Call.Quiet

lemma Reads.same {d : Io R} (hd : Reads d) (h : RunsOn d before after r) : after = before :=
  h.same_of_asks hd fun _ _ _ _ hc hserves => hc.same hserves

lemma reads_ask (hc : c.Quiet) : Reads (ask c) :=
  Asks.bind (Asks.request hc) fun _ => Asks.lift

lemma reads_busGet : Reads (busGet crates unit reg count tp bit) := by
  unfold busGet
  split
  · unfold busGetBools
    split
    · exact Asks.bind (reads_ask trivial) fun _ => Asks.ret _
    · exact Asks.fail _
  · unfold busGetWords
    split
    · exact Asks.fail _
    · exact Asks.bind (reads_ask trivial) fun _ => Asks.lift

lemma reads_verifyReg : Reads (verifyReg crates config unit reg tp bit verifyValue) := by
  have hdelay : Reads (verifyDelay config) := by
    unfold verifyDelay
    cases config.verifyDelay with
    | true => exact reads_ask trivial
    | false => exact Asks.ret ()
  refine Asks.bind hdelay fun _ => ?_
  refine Asks.bind (reads_ask trivial) fun _ => ?_
  refine Asks.bind reads_busGet fun _ => ?_
  refine Asks.bind Asks.lift fun _ => ?_
  split
  · exact Asks.ret ()
  · exact Asks.fail _

lemma busGet_bit (hcrates : crates.Lawful) (hreg : reg.kind = .holding)
    (h : RunsOn (busGet crates unit reg none .bit none) before after (.ok data)) : firstValue data =
      .ok (.u8 (if (before.holding unit reg.number).getLsbD 0 then 1 else 0)) := by
  have hbitReg : reg.kind.isBitReg = false := by
    rw [hreg]
    rfl
  have hwords : RunsOn (busGetWords crates unit reg 1 .bit none) before after (.ok data) := by
    unfold busGet at h
    rw [hbitReg] at h
    exact h
  rcases of_bind_ok hwords with ⟨mid, words, hask, hrest⟩
  have hone : words = [before.holding unit reg.number] := by
    rw [(runsOn_ask hask).right words rfl]
    simp [Device.words, getCount, ModbusType.size, hreg]
  have hdata := (of_lift hrest).right
  rw [hone] at hdata
  simp only [wordValues, bitValues, parseBlockValue, blockGet, if_true, Option.getD_none,
    BitVec.sub_self] at hdata
  injection hdata with hdata
  rw [hdata]
  exact congrArg (fun b : Bool => (Except.ok (Value.u8 (if b then 1 else 0)) : EResult Value))
    (hcrates.getBit_eq _ 0 (by decide))

/-!
## What is written
-/

section Bit

variable {crates : Crates} {unit : BitVec 8} {reg : Register} {value : Value} {bitNo : BitVec 8}

/-- The word that is written for a register: nothing but its lowest bit is left of it. -/
def storedWord (crates : Crates) (w : Word) (bit : Nat) (on : Bool) : Word :=
  crates.withBit (if w.getLsbD 0 then 1 else 0) bit on

variable {bit : Nat} {r : EResult Unit}

section

variable (hcrates : crates.Lawful)
include hcrates

lemma storedWord_getLsbD (hbit : bit < 16) : (storedWord crates w bit on).getLsbD i =
      if i = bit then on else decide (i = 0) && w.getLsbD 0 := by
  unfold storedWord
  rw [hcrates.withBit_eq _ bit on hbit]
  split
  · rfl
  · cases w.getLsbD 0 with
    | false => simp
    | true => simp [BitVec.getLsbD_one]

lemma storedWord_storedWord (hbit : bit < 16) :
    storedWord crates (storedWord crates w bit on) bit on = storedWord crates w bit on := by
  apply BitVec.eq_of_getLsbD_eq
  intro i _
  rw [storedWord_getLsbD hcrates hbit, storedWord_getLsbD hcrates hbit,
    storedWord_getLsbD hcrates hbit]
  split
  · rfl
  · next hi =>
    by_cases h0 : i = 0
    · rw [h0] at hi
      rw [if_neg hi, h0]
      simp
    · simp [h0]

def Device.store (crates : Crates) (d : Device) (unit : BitVec 8) (number : Word) (bit : Nat)
    (on : Bool) : Device :=
  d.setHolding unit number (storedWord crates (d.holding unit number) bit on)

lemma Device.store_store (d : Device) {unit : BitVec 8} {number : Word} (hbit : bit < 16)
    {on : Bool} :
    (d.store crates unit number bit on).store crates unit number bit on =
      d.store crates unit number bit on := by
  unfold Device.store
  rw [setHolding_same, setHolding_setHolding, storedWord_storedWord hcrates hbit]

end

/-- A run that has failed before anything was written, or has written the bit. -/
def Attempted (crates : Crates) (unit : BitVec 8) (reg : Register) (value : Value)
    (bitNo : BitVec 8) (before after : Device) (r : EResult Unit) : Prop :=
  (after = before ∧ r.toBool = false) ∨
    exists on, bitValue crates value = .ok on ∧
      after = before.store crates unit reg.number bitNo.toNat on

lemma reads_holdingWords_bit : Reads (holdingWords crates unit reg value (some bitNo) .bit) := by
  refine Asks.bind Asks.lift fun _ => ?_
  refine Asks.bind (reads_ask trivial) fun _ => ?_
  refine Asks.bind reads_busGet fun _ => ?_
  refine Asks.bind Asks.lift fun _ => ?_
  exact Asks.bind Asks.lift fun _ => Asks.ret _

section

variable (hcrates : crates.Lawful)
include hcrates

lemma retry_bit (hbit : bitNo.toNat < 16)
    (hattempt : forall before after r, RunsOn attempt before after r ->
      Attempted crates unit reg value bitNo before after r)
    (h : RunsOn (retry attempt retries) before after r) :
    Attempted crates unit reg value bitNo before after r := by
  induction retries generalizing before with
  | zero => exact hattempt before after r h
  | succ retries ih =>
    rcases of_bind h with hfail | hboth
    · rcases hfail with ⟨e, _, hfirst⟩
      rcases of_attempt hfirst with ⟨q, hq, _⟩
      cases hq
    · rcases hboth with ⟨mid, q, hfirst, hrest⟩
      rcases of_attempt hfirst with ⟨q', hq, hruns⟩
      injection hq with hq
      have hmid := hattempt before mid q' hruns
      rw [← hq] at hmid
      cases q with
      | ok result =>
        cases hrest
        exact hmid
      | error e =>
        have hlast := ih hrest
        rcases hmid with hnot | hset
        · rw [← hnot.left]
          exact hlast
        · rcases hset with ⟨on, hon, hmid⟩
          rcases hlast with hnot | hagain
          · rw [hnot.left]
            exact Or.inr ⟨on, hon, hmid⟩
          · -- writing the bit a second time changes nothing
            rcases hagain with ⟨on', hon', hafter⟩
            rw [hon] at hon'
            injection hon' with hsame
            rw [hmid, ← hsame, Device.store_store hcrates _ hbit] at hafter
            exact Or.inr ⟨on, hon, hafter⟩

section

variable (hreg : reg.kind = .holding)
include hreg

lemma holdingWords_bit
    (h : RunsOn (holdingWords crates unit reg value (some bitNo) .bit) before after (.ok vals)) :
    exists on, bitValue crates value = .ok on ∧
      vals = [storedWord crates (before.holding unit reg.number) bitNo.toNat on] := by
  rcases of_bind_ok h with ⟨mid, on, hon, h⟩
  rcases of_lift hon with ⟨hmid, hon⟩
  rcases of_bind_ok h with ⟨mid', _, htime, h⟩
  have hmid' : mid' = mid := runsOn_ask htime
  rcases of_bind_ok h with ⟨_, data, hget, h⟩
  rw [hmid', hmid] at hget
  rcases of_bind_ok h with ⟨_, oldv, hfirst, h⟩
  have hold := (of_lift hfirst).right
  rw [busGet_bit hcrates hreg hget] at hold
  injection hold with hold
  rcases of_bind_ok h with ⟨_, n, hconv, h⟩
  have hn : (Except.ok n : EResult Word) = crates.toU16 oldv :=
    (of_lift hconv).right
  rw [hold, hcrates.toU16_u8] at hn
  have hword := Except.ok.inj hn
  cases h
  refine ⟨on, hon.symm, ?_⟩
  unfold storedWord
  rw [hword]
  cases (before.holding unit reg.number).getLsbD 0 with
  | false | true => rfl

lemma setReg_bit (h : RunsOn (setReg crates unit reg value .bit (some bitNo)) before after r) :
    Attempted crates unit reg value bitNo before after r := by
  simp only [setReg, hreg] at h
  rcases of_bind h with hfail | hboth
  · rcases hfail with ⟨e, hr, hwords⟩
    rw [hr]
    exact Or.inl ⟨reads_holdingWords_bit.same hwords, rfl⟩
  · rcases hboth with ⟨mid, vals, hwords, h⟩
    have hmid := reads_holdingWords_bit.same hwords
    rcases holdingWords_bit hcrates hreg hwords with ⟨on, hon, hvals⟩
    rw [hmid, hvals] at h
    rcases of_bind h with hfail | hboth
    · rcases hfail with ⟨e, hr, htime⟩
      rw [hr]
      exact Or.inl ⟨runsOn_ask htime, rfl⟩
    · rcases hboth with ⟨mid', _, htime, hwrite⟩
      have hmid' : mid' = before := runsOn_ask htime
      rw [hmid'] at hwrite
      rcases runsOn_ask hwrite with hdone | hpart
      · exact Or.inr ⟨on, hon, hdone⟩
      · rcases hpart with ⟨hr, n, hafter⟩
        cases n with
        | zero => exact Or.inl ⟨hafter, hr⟩
        | succ n =>
          rw [List.take_succ_cons, List.take_nil] at hafter
          exact Or.inr ⟨on, hon, hafter⟩

lemma busSet_bit {tp : Option ModbusType} (htp : tp = none ∨ tp = some .bit)
    (h : RunsOn (busSet crates config unit reg value tp (some bitNo) verify) before after r) :
    Attempted crates unit reg value bitNo before after r := by
  have htype : defaultType reg (some bitNo) tp = .bit := by
    rcases htp with hnone | hbit
    · rw [hnone]
      rfl
    · rw [hbit]
      rfl
  unfold busSet at h
  rw [htype] at h
  cases verify with
  | false => exact setReg_bit hcrates hreg h
  | true =>
    rcases of_bind h with hfail | hboth
    · rcases hfail with ⟨e, hr, hlift⟩
      rw [hr]
      exact Or.inl ⟨(of_lift hlift).left, rfl⟩
    · rcases hboth with ⟨mid, verifyValue, hlift, h⟩
      rw [(of_lift hlift).left] at h
      rcases of_bind h with hfail | hboth
      · rcases hfail with ⟨e, hr, hset⟩
        rw [hr]
        exact setReg_bit hcrates hreg hset
      · rcases hboth with ⟨mid', _, hset, hverify⟩
        rw [reads_verifyReg.same hverify]
        rcases setReg_bit hcrates hreg hset with hnot | hset
        · cases hnot.right
        · exact Or.inr hset

theorem set_bit_store (htp : tp = none ∨ tp = some .bit) (hbit : bitNo.toNat < 16)
    (h : RunsOn (set crates config unit reg value tp (some bitNo) verify retries) before after
      (.ok ())) : exists on, bitValue crates value = .ok on ∧
      after = before.store crates unit reg.number bitNo.toNat on := by
  have hattempts : RunsOn (retry (busSet crates config unit reg value tp (some bitNo) verify)
      retries) before after (.ok ()) := by
    unfold set at h
    split at h
    · exact h
    · cases h
    · split at h
      · exact h
      · cases h
  have hset := retry_bit hcrates hbit
    (fun _ _ _ hrun => busSet_bit hcrates hreg htp hrun) hattempts
  rcases hset with hnot | hset
  · cases hnot.right
  · exact hset

end

/-!
## One bit and nothing else
-/

/-- Whether a number is not zero; one that is no integer counts as what it is converted to. -/
def Value.numberIsOn (crates : Crates) (value : Value) : Bool :=
  match value.integer with
  | some i => decide (i ≠ 0)
  | none => (crates.toU64 value).toOption.any fun n => decide (n ≠ 0)

def Value.isOn (crates : Crates) : Value -> Bool
  | .bool b => b
  | value => value.numberIsOn crates

/-- One bit of one holding register is set to a value, and nothing else has changed. -/
structure SetsBit (before after : Device) (unit : BitVec 8) (number : Word) (bit : Nat)
    (on : Bool) : Prop where
  bits : forall i, (after.holding unit number).getLsbD i =
    if i = bit then on else (before.holding unit number).getLsbD i
  holdings : forall u n, ¬ (u = unit ∧ n = number) -> after.holding u n = before.holding u n
  inputs : after.input = before.input
  coils : after.coil = before.coil
  discretes : after.discrete = before.discrete

lemma Value.numberIsOn_eq (hn : crates.toU64 value = .ok n) :
    value.numberIsOn crates = decide (0 < n.toNat) := by
  unfold numberIsOn
  split
  · next i hi =>
    have heq := hcrates.toU64_integer value n i hn hi
    apply decide_eq_decide.mpr
    omega
  · rw [hn]
    apply decide_eq_decide.mpr
    rw [Nat.pos_iff_ne_zero]
    exact not_congr (BitVec.toNat_inj (y := 0)).symm

lemma bitValue_isOn (h : bitValue crates value = .ok on) : value.isOn crates = on := by
  have hnumber : (do return decide (0 < (<- crates.toU64 value).toNat) : EResult Bool) = .ok on ->
      value.numberIsOn crates = on := by
    intro hconv
    cases hn : crates.toU64 value with
    | error e =>
      rw [hn] at hconv
      cases hconv
    | ok n =>
      rw [hn] at hconv
      rw [Value.numberIsOn_eq hcrates hn]
      exact Except.ok.inj hconv
  cases value with
  | bool b => exact Except.ok.inj h
  | _ => exact hnumber h

lemma Device.store_setsBit_iff (hbit : bit < 16) :
    SetsBit d (d.store crates unit number bit on) unit number bit on <->
      forall i, i < 16 -> i ≠ 0 -> i ≠ bit -> (d.holding unit number).getLsbD i = false := by
  have hword : (d.store crates unit number bit on).holding unit number =
      storedWord crates (d.holding unit number) bit on := setHolding_same d unit
  constructor
  · intro h i _ h0 hne
    have hi := h.bits i
    rw [hword, storedWord_getLsbD hcrates hbit, if_neg hne, if_neg hne] at hi
    rw [← hi]
    simp [h0]
  · intro h
    constructor
    · intro i
      rw [hword, storedWord_getLsbD hcrates hbit]
      split
      · rfl
      · next hne =>
        by_cases h0 : i = 0
        · simp [h0]
        · rcases Nat.lt_or_ge i 16 with hlt | hge
          · simp [h0, h i hlt h0 hne]
          · simp [h0, BitVec.getLsbD_of_ge _ _ hge]
    · intro u n hne
      exact if_neg hne
    · rfl
    · rfl
    · rfl

end

/-- A bit is set and nothing else changed if and only if no other bit of the register was set
before, the lowest one apart. -/
theorem set_bit_changes_only_it_iff (hcrates : crates.Lawful) {config : ModbusConfig}
    (hreg : reg.kind = .holding) {tp : Option ModbusType} (htp : tp = none ∨ tp = some .bit)
    (hbit : bitNo.toNat < 16) {verify : Bool} {retries : Nat}
    (hruns : RunsOn (set crates config unit reg value tp (some bitNo) verify retries)
      before after (.ok ())) :
    SetsBit before after unit reg.number bitNo.toNat (value.isOn crates) <->
      forall i, i < 16 -> i ≠ 0 -> i ≠ bitNo.toNat ->
        (before.holding unit reg.number).getLsbD i = false := by
  rcases set_bit_store hcrates hreg htp hbit hruns with ⟨on, hon, hafter⟩
  rw [bitValue_isOn hcrates hon, hafter]
  exact Device.store_setsBit_iff hcrates hbit

end Bit

/-!
## Concrete runs
-/

def outOfRange : Error :=
  invalidData "value out of range"

def toUnsigned (n : Nat) (value : Value) : EResult (BitVec n) :=
  match value.integer with
  | some i => if 0 <= i ∧ i < 2 ^ n then .ok (BitVec.ofInt n i) else .error outOfRange
  | none => .error outOfRange

def toSigned (n : Nat) (value : Value) : EResult (BitVec n) :=
  match value.integer with
  | some i =>
    if -2 ^ (n - 1) <= i ∧ i < 2 ^ (n - 1) then .ok (BitVec.ofInt n i) else .error outOfRange
  | none => .error outOfRange

def Crates.sample : Crates where
  isNumeric value := value.integer.isSome
  toU8 := toUnsigned 8
  toU16 := toUnsigned 16
  toU32 := toUnsigned 32
  toU64 := toUnsigned 64
  toI16 := toSigned 16
  toI32 := toSigned 32
  toI64 := toSigned 64
  toF32 _ := .error outOfRange
  toF64 _ := .error outOfRange
  sameValue a b := decide (a = b)
  getBit w i := w.getLsbD i
  withBit w i b := if b then w ||| BitVec.twoPow 16 i else w &&& ~~~BitVec.twoPow 16 i

lemma toNat_of_toUnsigned (h : toUnsigned n value = .ok w) (hi : value.integer = some i) :
    (w.toNat : Int) = i := by
  unfold toUnsigned at h
  simp only [hi] at h
  split at h
  · next hrange =>
    rw [← Except.ok.inj h, BitVec.toNat_ofInt]
    have hmod : i % ((2 ^ n : Nat) : Int) = i := by
      apply Int.emod_eq_of_lt hrange.left
      push_cast
      exact hrange.right
    rw [hmod]
    exact Int.toNat_of_nonneg hrange.left
  · cases h

lemma toUnsigned_u8 : toUnsigned 16 (.u8 n) = .ok (n.setWidth 16) := by
  have hrange : 0 <= (n.toNat : Int) ∧ (n.toNat : Int) < 2 ^ 16 := by omega
  unfold toUnsigned
  simp only [Value.integer]
  rw [if_pos hrange, BitVec.ofInt_natCast, BitVec.ofNat_toNat]

lemma Crates.sample_withBit (w : Word) (i : Nat) (b : Bool) (hi : i < 16) (j : Nat) :
    (Crates.sample.withBit w i b).getLsbD j = if j = i then b else w.getLsbD j := by
  simp only [sample]
  by_cases heq : j = i
  · cases b <;> simp [heq, hi]
  · have hne' : i ≠ j := Ne.symm heq
    cases b with
    | true => simp [heq, hne']
    | false =>
      simp only [Bool.false_eq_true, if_false, if_neg heq, BitVec.getLsbD_and,
        BitVec.getLsbD_not, BitVec.getLsbD_twoPow]
      rcases Nat.lt_or_ge j 16 with hlt | hge
      · simp [hlt, hne']
      · simp [BitVec.getLsbD_of_ge w j hge]

lemma Crates.sample_lawful : Crates.sample.Lawful := by
  constructor
  · intro value w i h hi
    exact toNat_of_toUnsigned h hi
  · intro n
    simp only [sample]
    exact toUnsigned_u8
  · intro w i _
    rfl
  · exact sample_withBit

def Device.filled (w : Word) : Device where
  coil _ _ := false
  discrete _ _ := false
  input _ _ := 0
  holding _ _ := w

def sampleRegister : Register where
  kind := .holding
  number := 5

def setSample (w : Word) (bitNo : BitVec 8) : Device × EResult Unit :=
  (set Crates.sample { verifyDelay := false } 1 sampleRegister (.bool true) none (some bitNo)
    false 0).exec Device.serve (Device.filled w)

lemma setSample_runs (w : Word) (bitNo : BitVec 8) :
    RunsOn (set Crates.sample { verifyDelay := false } 1 sampleRegister (.bool true) none
      (some bitNo) false 0) (Device.filled w) (setSample w bitNo).1 (setSample w bitNo).2 :=
  of_exec Device.serves_serve _ _

/-- Bit 3 of a register that holds 1. -/
theorem third_bit_changes_only_it : (setSample 1 3).2 = .ok () ∧
      SetsBit (Device.filled 1) (setSample 1 3).1 1 5 3 (Value.isOn Crates.sample (.bool true)) :=
  ⟨rfl, (set_bit_changes_only_it_iff Crates.sample_lawful rfl (Or.inl rfl) (by decide)
    (setSample_runs 1 3)).mpr (by decide)⟩

/-- The high byte of a register is lost when its lowest bit is set. -/
theorem lowest_bit_clears_high_byte :
    (setSample 0xff00 0).2 = .ok () ∧ (setSample 0xff00 0).1.holding 1 5 = 1 ∧
      ¬ SetsBit (Device.filled 0xff00) (setSample 0xff00 0).1 1 5 0
        (Value.isOn Crates.sample (.bool true)) := by
  refine ⟨rfl, rfl, ?_⟩
  intro h
  have hbit := h.bits 8
  revert hbit
  decide

end Eva4.ControllerModbus
