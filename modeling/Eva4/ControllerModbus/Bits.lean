import Eva4.ControllerModbus.SetBit

/-!
# Reading a range of bits

A read of several bits counts the bit number up to 16 before it goes on with the next register.
-/

namespace Eva4.ControllerModbus

open Lib
open Items (EResult)

variable (crates : Crates) (d : Device) (unit : BitVec 8) (reg : Register)

def Device.word : Word :=
  match reg.kind with
  | .holding => d.holding unit reg.number
  | _ => d.input unit reg.number

def Device.bitAt (i : Nat) : RegisterValue :=
  let r : Register := { reg with number := reg.number + BitVec.ofNat 16 (i / 16) }
  .new reg.kind r.number (BitVec.ofNat 8 (i % 16))
    (.u8 (if (d.word unit r).getLsbD (i % 16) then 1 else 0))

/-- The values of a range of bits, from registers that are all requested. -/
def ReadsBits (b n : Nat) : Prop :=
  (busGet crates unit reg (some n) .bit (some (BitVec.ofNat 8 b))).exec Device.serve d =
    (d, .ok ((List.range n).map fun k => d.bitAt unit reg (b + k))) ∧
  forall k, k < n -> (b + k) / 16 < getCount .bit n

variable {crates}

lemma bitValues_of_le (hcrates : crates.Lawful) (hfirst : data[0]? = some w) (hrange : b + n ≤ 16) :
    bitValues crates data reg n (BitVec.ofNat 8 b) reg.number =
      .ok ((List.range n).map fun k => .new reg.kind reg.number (BitVec.ofNat 8 (b + k))
        (.u8 (if w.getLsbD (b + k) then 1 else 0))) := by
  induction n generalizing b with
  | zero => rfl
  | succ n ih =>
    have hb : (BitVec.ofNat 8 b).toNat = b := Nat.mod_eq_of_lt (by omega)
    have hle : ¬ 15 < (BitVec.ofNat 8 b).toNat := by omega
    have hval : parseBlockValue crates data (reg.number - reg.number)
        (some (BitVec.ofNat 8 b)) .bit = .ok (.u8 (if w.getLsbD b then 1 else 0)) := by
      simp only [parseBlockValue, blockGet, BitVec.sub_self, BitVec.toNat_zero, hfirst, hb]
      exact congrArg (fun on : Bool => (Except.ok (.u8 (if on then 1 else 0)) : EResult Value))
        (hcrates.getBit_eq w b (by omega))
    have hnext : BitVec.ofNat 8 b + 1 = BitVec.ofNat 8 (b + 1) := (BitVec.ofNat_add b 1).symm
    simp only [bitValues, hval, hle, if_false, hnext, ih (b := b + 1) (by omega),
      List.range_succ_eq_map, List.map_cons, List.map_map, Function.comp_def, Nat.add_assoc,
      Nat.add_comm 1]
    rfl

lemma bit_of_bitValues (hvalues : bitValues crates data reg n bitNo rn = .ok values)
    (hk : bitNo.toNat + k = 16) (hlt : k < n) :
    values[k]?.map RegisterValue.bit = some (some 16) := by
  induction n generalizing bitNo rn k values with
  | zero => cases hlt
  | succ n ih =>
    unfold bitValues at hvalues
    rcases exists_of_bind_ok hvalues with ⟨val, _, hvalues⟩
    cases k with
    | zero =>
      have hbit : bitNo = 16 := BitVec.eq_of_toNat_eq hk
      split at hvalues
      all_goals
        rcases exists_of_bind_ok hvalues with ⟨rest, _, hvalues⟩
        cases hvalues
        rw [hbit]
        rfl
    | succ k =>
      simp only [show ¬ 15 < bitNo.toNat by omega, if_false] at hvalues
      rcases exists_of_bind_ok hvalues with ⟨rest, hrest, hvalues⟩
      cases hvalues
      apply ih hrest _ (by omega)
      rw [BitVec.toNat_add_of_lt]
      · change bitNo.toNat + 1 + k = 16
        omega
      · change bitNo.toNat + 1 < 256
        omega

lemma exec_busGet_bit (hwords : reg.kind.isBitReg = false) (hb : b < 16) :
    (busGet crates unit reg (some n) .bit (some (BitVec.ofNat 8 b))).exec Device.serve d =
      if 65535 < getCount .bit n then (d, .error (invalidParams "invalid range"))
      else (d, bitValues crates (d.words unit reg (getCount .bit n)) reg n (BitVec.ofNat 8 b)
        reg.number) := by
  have hle : ¬ 15 < (BitVec.ofNat 8 b).toNat := by
    rw [BitVec.toNat_ofNat, Nat.mod_eq_of_lt (by omega)]
    omega
  have hsize : getCount .bit n * ModbusType.bit.size = getCount .bit n := Nat.mul_one _
  simp only [busGet, hwords, busGetWords, wordValues, Option.getD_some, hle, if_true, if_false,
    Bool.false_eq_true]
  rw [hsize]
  split
  · rfl
  · show Dialog.exec _ (Dialog.lift (bitValues _ _ _ _ _ _)) _ = _
    cases bitValues crates (d.words unit reg (getCount .bit n)) reg n (BitVec.ofNat 8 b) reg.number
    <;> rfl

/-- The bits of a range are read if and only if they are all in one register. -/
theorem bits_read_iff (hcrates : crates.Lawful) (hwords : reg.kind.isBitReg = false) (b n : Nat)
    (hb : b < 16) : ReadsBits crates d unit reg b n <-> b + n ≤ 16 := by
  unfold ReadsBits
  rw [exec_busGet_bit d unit reg hwords hb]
  constructor
  · rintro ⟨hexec, _⟩
    by_contra hgt
    split at hexec
    · cases hexec
    · have hbit := bit_of_bitValues reg (congrArg Prod.snd hexec) (k := 16 - b)
        (by rw [BitVec.toNat_ofNat]; omega) (by omega)
      rw [List.getElem?_map, List.getElem?_range (by omega)] at hbit
      have hsum : b + (16 - b) = 16 := by omega
      simp [Device.bitAt, RegisterValue.new, hsum] at hbit
  · intro hle
    have hcount : ¬ 65535 < getCount .bit n := by simp only [getCount, if_true]; omega
    rw [if_neg hcount]
    cases n with
    | zero => exact ⟨rfl, fun _ hk => absurd hk (Nat.not_lt_zero _)⟩
    | succ n =>
      have hzero : { reg with number := reg.number + BitVec.ofNat 16 0 } = reg := by simp
      have hpos : 0 < getCount .bit (n + 1) := by simp only [getCount, if_true]; omega
      have hfirst : (d.words unit reg (getCount .bit (n + 1)))[0]? = some (d.word unit reg) := by
        rw [Device.words, List.getElem?_map, List.getElem?_range hpos]
        exact congrArg (fun r => some (d.word unit r)) hzero
      rw [bitValues_of_le reg hcrates hfirst hle]
      constructor
      · congr 2
        apply List.map_congr_left
        intro k hk
        have hlt : b + k < 16 := by
          have hk' := List.mem_range.mp hk
          omega
        simp only [Device.bitAt, Nat.div_eq_of_lt hlt, Nat.mod_eq_of_lt hlt, BitVec.add_zero]
      · intro k hk
        omega

theorem nibble_read : ReadsBits Crates.sample (Device.filled 0xab) 1 sampleRegister 4 8 :=
  (bits_read_iff _ _ _ Crates.sample_lawful rfl 4 8 (by decide)).mpr (by decide)

def labels (r : Device × EResult (List RegisterValue)) : List (Word × Option (BitVec 8)) :=
  (r.2.toOption.getD []).map fun v => (v.register.number, v.bit)

/-- The last of 17 bits is bit 16 of the first register. -/
theorem seventeenth_bit_wrong : (labels ((busGet Crates.sample 1 sampleRegister (some 17) .bit
      (some 0)).exec Device.serve (Device.filled 1)))[16]? = some (5, some 16) ∧
    ¬ ReadsBits Crates.sample (Device.filled 1) 1 sampleRegister 0 17 := by
  refine ⟨rfl, ?_⟩
  rintro ⟨hexec, _⟩
  have hlabel := congrArg (fun r => (labels r)[16]?) hexec
  cases hlabel

end Eva4.ControllerModbus
