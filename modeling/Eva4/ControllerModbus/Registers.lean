import Eva4.Lib.Dialog
import Eva4.Items.Basic

/-!
# Modbus registers

How values are read from registers and written to them.  A request to the client of the field bus
is a call of a dialog, and so is a look at the time that is left.  The conversions of values and
the access to the bits of a word come from other crates and are parameters.
-/

namespace Eva4.ControllerModbus

open Lib
open Items (Error EResult)

/-!
## Registers and values
-/

abbrev Word : Type :=
  BitVec 16

inductive RegisterKind where
  | coil
  | discrete
  | input
  | holding
deriving DecidableEq, Repr

def RegisterKind.isBitReg (kind : RegisterKind) : Bool :=
  kind == .coil || kind == .discrete

structure Register where
  kind : RegisterKind
  number : Word
deriving DecidableEq

inductive ModbusType where
  | bit
  | uint16
  | int16
  | uint32
  | int32
  | uint64
  | int64
  | uint32w
  | int32w
  | uint64w
  | int64w
  | real32
  | real64
  | real32b
  | real64b
deriving DecidableEq, Repr

def ModbusType.size : ModbusType -> Nat
  | .bit | .uint16 | .int16 => 1
  | .uint32 | .int32 | .uint32w | .int32w | .real32 | .real32b => 2
  | .uint64 | .int64 | .uint64w | .int64w | .real64 | .real64b => 4

/-- Numbers are given by their bits, floating point numbers as well. -/
inductive Value where
  | unit
  | bool (b : Bool)
  | u8 (n : BitVec 8)
  | u16 (n : BitVec 16)
  | u32 (n : BitVec 32)
  | u64 (n : BitVec 64)
  | i8 (n : BitVec 8)
  | i16 (n : BitVec 16)
  | i32 (n : BitVec 32)
  | i64 (n : BitVec 64)
  | f32 (bits : BitVec 32)
  | f64 (bits : BitVec 64)
  | string (s : String)
  /-- Sequences, maps and bytes. -/
  | other
deriving DecidableEq

def Value.integer : Value -> Option Int
  | .u8 n => some n.toNat
  | .u16 n => some n.toNat
  | .u32 n => some n.toNat
  | .u64 n => some n.toNat
  | .i8 n => some n.toInt
  | .i16 n => some n.toInt
  | .i32 n => some n.toInt
  | .i64 n => some n.toInt
  | _ => none

structure Crates where
  isNumeric : Value -> Bool
  toU8 : Value -> EResult (BitVec 8)
  toU16 : Value -> EResult (BitVec 16)
  toU32 : Value -> EResult (BitVec 32)
  toU64 : Value -> EResult (BitVec 64)
  toI16 : Value -> EResult (BitVec 16)
  toI32 : Value -> EResult (BitVec 32)
  toI64 : Value -> EResult (BitVec 64)
  toF32 : Value -> EResult (BitVec 32)
  toF64 : Value -> EResult (BitVec 64)
  sameValue : Value -> Value -> Bool
  getBit : Word -> Nat -> Bool
  withBit : Word -> Nat -> Bool -> Word

variable (crates : Crates)

/-- Integers are converted to themselves or not at all, and the bits of a word are what they
should be. -/
structure Crates.Lawful : Prop where
  toU64_integer : forall value n i, crates.toU64 value = .ok n -> value.integer = some i ->
    (n.toNat : Int) = i
  toU16_u8 : forall n, crates.toU16 (.u8 n) = .ok (n.setWidth 16)
  getBit_eq : forall (w : Word) i, i < 16 -> crates.getBit w i = w.getLsbD i
  withBit_eq : forall (w : Word) i b, i < 16 -> forall j,
    (crates.withBit w i b).getLsbD j = if j = i then b else w.getLsbD j

structure RegisterValue where
  register : Register
  bit : Option (BitVec 8)
  value : Value

def RegisterValue.new0 (kind : RegisterKind) (number : Word) (value : Value) : RegisterValue where
  register := { kind := kind, number := number }
  bit := none
  value := value

def RegisterValue.new (kind : RegisterKind) (number : Word) (bit : BitVec 8) (value : Value) :
    RegisterValue where
  register := { kind := kind, number := number }
  bit := some bit
  value := value

def invalidParams (message : String) : Error where
  kind := .invalidParams
  message := message

def invalidData (message : String) : Error where
  kind := .invalidData
  message := message

def errInvalidValue : String := "invalid modbus value"

def ModbusType.normalizeValue (value : Value) : ModbusType -> EResult Value
  | .bit => do return .u8 (<- crates.toU8 value)
  | .uint16 => do return .u16 (<- crates.toU16 value)
  | .int16 => do return .i16 (<- crates.toI16 value)
  | .uint32 | .uint32w => do return .u32 (<- crates.toU32 value)
  | .int32 | .int32w => do return .i32 (<- crates.toI32 value)
  | .uint64 | .uint64w => do return .u64 (<- crates.toU64 value)
  | .int64 | .int64w => do return .i64 (<- crates.toI64 value)
  | .real32 | .real32b => do return .f32 (<- crates.toF32 value)
  | .real64 | .real64b => do return .f64 (<- crates.toF64 value)

/-!
## Words of a block

The bytes of a number stand in a row with the most significant byte first, so the words of a
number are its words from the most significant one on; some types have them the other way round.
-/

def words32 (n : BitVec 32) : List Word :=
  [n.extractLsb' 16 16, n.extractLsb' 0 16]

def words64 (n : BitVec 64) : List Word :=
  [n.extractLsb' 48 16, n.extractLsb' 32 16, n.extractLsb' 16 16, n.extractLsb' 0 16]

def isFinite32 (bits : BitVec 32) : Bool :=
  bits.extractLsb' 23 8 != 255

def isFinite64 (bits : BitVec 64) : Bool :=
  bits.extractLsb' 52 11 != 2047

variable (block : List Word)

def blockGet (offset : Word) : EResult Word :=
  match block[offset.toNat]? with
  | some w => .ok w
  | none => .error (invalidData "the block does not contain the requested data")

def blockGet32 (first second : Word) : EResult (BitVec 32) := do
  let v1 <- blockGet block first
  let v2 <- blockGet block second
  return v1 ++ v2

def blockGet64 (first second third fourth : Word) : EResult (BitVec 64) := do
  let v1 <- blockGet block first
  let v2 <- blockGet block second
  let v3 <- blockGet block third
  let v4 <- blockGet block fourth
  return v1 ++ v2 ++ v3 ++ v4

def finite32 (bits : BitVec 32) : EResult Value :=
  if isFinite32 bits then .ok (.f32 bits) else .error (invalidData errInvalidValue)

def finite64 (bits : BitVec 64) : EResult Value :=
  if isFinite64 bits then .ok (.f64 bits) else .error (invalidData errInvalidValue)

def parseBlockValue (offset : Word) (bit : Option (BitVec 8)) : ModbusType -> EResult Value
  | .bit => do
    let regValue <- blockGet block offset
    match bit with
    | some bit => return .u8 (if crates.getBit regValue bit.toNat then 1 else 0)
    | none => .error (invalidParams "bit not specified")
  | .uint16 => do return .u16 (<- blockGet block offset)
  | .int16 => do return .i16 (<- blockGet block offset)
  | .uint32 => do return .u32 (<- blockGet32 block offset (offset + 1))
  | .int32 => do return .i32 (<- blockGet32 block offset (offset + 1))
  | .uint64 => do
    return .u64 (<- blockGet64 block offset (offset + 1) (offset + 2) (offset + 3))
  | .int64 => do
    return .i64 (<- blockGet64 block offset (offset + 1) (offset + 2) (offset + 3))
  | .uint32w => do return .u32 (<- blockGet32 block (offset + 1) offset)
  | .int32w => do return .i32 (<- blockGet32 block (offset + 1) offset)
  | .uint64w => do
    return .u64 (<- blockGet64 block (offset + 3) (offset + 2) (offset + 1) offset)
  | .int64w => do
    return .i64 (<- blockGet64 block (offset + 3) (offset + 2) (offset + 1) offset)
  | .real32 => do finite32 (<- blockGet32 block (offset + 1) offset)
  | .real64 => do
    finite64 (<- blockGet64 block (offset + 3) (offset + 2) (offset + 1) offset)
  | .real32b => do finite32 (<- blockGet32 block offset (offset + 1))
  | .real64b => do
    finite64 (<- blockGet64 block offset (offset + 1) (offset + 2) (offset + 3))

/-!
## Calls
-/

inductive Call where
  /-- The time that is left for the operation. -/
  | opTimeout
  | getBool (unit : BitVec 8) (reg : Register) (count : Nat)
  | setBool (unit : BitVec 8) (reg : Register) (value : Bool)
  | getU16 (unit : BitVec 8) (reg : Register) (count : Nat)
  | setU16Bulk (unit : BitVec 8) (reg : Register) (values : List Word)
  | sleep

/-- What a call is answered with, unless it fails or its time is over. -/
def Call.Reply : Call -> Type
  | .getBool _ _ _ => List Bool
  | .getU16 _ _ _ => List Word
  | _ => Unit

abbrev Call.Answer (call : Call) : Type :=
  EResult call.Reply

abbrev Io (R : Type) : Type :=
  Dialog Call Call.Answer Error R

def ask (call : Call) : Io call.Reply := do
  let answer : EResult call.Reply <- Dialog.request call
  answer

structure ModbusConfig where
  verifyDelay : Bool

/-!
## Reading
-/

def bitValues (crates : Crates) (data : List Word) (reg : Register) :
    Nat -> BitVec 8 -> Word -> EResult (List RegisterValue)
  | 0, _, _ => .ok []
  | count + 1, bitNo, rn => do
    let val <- parseBlockValue crates data (rn - reg.number) (some bitNo) .bit
    let rest <-
      if 15 < bitNo.toNat then bitValues crates data reg count 0 (rn + 1)
      else bitValues crates data reg count (bitNo + 1) rn
    return .new reg.kind rn bitNo val :: rest

def typedValues (data : List Word) (reg : Register) (tp : ModbusType)
    (count : Nat) : EResult (List RegisterValue) :=
  (List.range count).mapM fun i => do
    let rn := BitVec.ofNat 16 (i * tp.size)
    let val <- parseBlockValue crates data rn none tp
    return .new0 reg.kind (reg.number + rn) val

/-- The numbers of registers end with the last one. -/
def boolValues (reg : Register) (data : List Bool) : List RegisterValue :=
  (data.take (65536 - reg.number.toNat)).zipIdx.map fun entry =>
    .new0 reg.kind (reg.number + BitVec.ofNat 16 entry.2) (.u8 (if entry.1 then 1 else 0))

variable (unit : BitVec 8)

def busGetBools (reg : Register) (count : Nat) (tp : ModbusType) : Io (List RegisterValue) :=
  if tp = .bit then do
    let data : List Bool <- ask (.getBool unit reg count)
    pure (boolValues reg data)
  else .fail (invalidParams "only type \"bit\" can be specified for coils/discretes")

def wordValues (reg : Register) (count : Nat) (tp : ModbusType)
    (bit : Option (BitVec 8)) (data : List Word) : EResult (List RegisterValue) :=
  if tp = .bit then
    let bitNo := bit.getD 0
    if 15 < bitNo.toNat then .error (invalidParams "invalid bit range")
    else bitValues crates data reg count bitNo reg.number
  else typedValues crates data reg tp count

/-- Eight bits are counted for each register. -/
def getCount (tp : ModbusType) (count : Nat) : Nat :=
  if tp = .bit then (count + 7) / 8 else count

def busGetWords (reg : Register) (count : Nat)
    (tp : ModbusType) (bit : Option (BitVec 8)) : Io (List RegisterValue) :=
  if 65535 < getCount tp count * tp.size then .fail (invalidParams "invalid range")
  else do
    let data : List Word <- ask (.getU16 unit reg (getCount tp count * tp.size))
    (wordValues crates reg count tp bit data : EResult (List RegisterValue))

def busGet (reg : Register) (count : Option Nat)
    (tp : ModbusType) (bit : Option (BitVec 8)) : Io (List RegisterValue) :=
  if reg.kind.isBitReg then busGetBools unit reg (count.getD 1) tp
  else busGetWords crates unit reg (count.getD 1) tp bit

def firstValue : List RegisterValue -> EResult Value
  | rv :: _ => .ok rv.value
  | [] => .error (invalidData "invalid data received")

/-!
## Writing
-/

def bitValue : Value -> EResult Bool
  | .bool b => .ok b
  | value => do return decide (0 < (<- crates.toU64 value).toNat)

def holdingWords (reg : Register) (value : Value)
    (bit : Option (BitVec 8)) : ModbusType -> Io (List Word)
  | .bit =>
    match bit with
    | none => .fail (invalidParams "bit number not specified")
    | some bitNo => do
      let val <- bitValue crates value
      ask .opTimeout
      let data <- busGet crates unit reg none .bit none
      let oldv <- firstValue data
      let n <- crates.toU16 oldv
      pure [crates.withBit n bitNo.toNat val]
  | .uint16 => do pure [<- (crates.toU16 value : EResult Word)]
  | .int16 => do pure [<- (crates.toI16 value : EResult Word)]
  | .uint32 => do pure (words32 (<- crates.toU32 value))
  | .int32 => do pure (words32 (<- crates.toI32 value))
  | .uint64 => do pure (words64 (<- crates.toU64 value))
  | .int64 => do pure (words64 (<- crates.toI64 value))
  | .uint32w => do pure (words32 (<- crates.toU32 value)).reverse
  | .int32w => do pure (words32 (<- crates.toI32 value)).reverse
  | .uint64w => do pure (words64 (<- crates.toU64 value)).reverse
  | .int64w => do pure (words64 (<- crates.toI64 value)).reverse
  | .real32 => do pure (words32 (<- crates.toF32 value)).reverse
  | .real64 => do pure (words64 (<- crates.toF64 value)).reverse
  | .real32b => do pure (words32 (<- crates.toF32 value))
  | .real64b => do pure (words64 (<- crates.toF64 value))

def setReg (reg : Register) (value : Value) (tp : ModbusType) (bit : Option (BitVec 8)) : Io Unit :=
  match reg.kind with
  | .input | .discrete =>
    .fail { kind := .accessDenied, message := "attempt to write to read/only modbus register" }
  | .coil =>
    if tp = .bit then do
      let val <- bitValue crates value
      ask .opTimeout
      ask (.setBool unit reg val)
    else .fail (invalidParams "Only bits can be written into coils")
  | .holding => do
    let vals <- holdingWords crates unit reg value bit tp
    ask .opTimeout
    ask (.setU16Bulk unit reg vals)

/-- Without a type the bit or the kind of the register decides. -/
def defaultType (reg : Register) (bit : Option (BitVec 8)) (tp : Option ModbusType) : ModbusType :=
  tp.getD (if bit.isSome || reg.kind.isBitReg then .bit else .uint16)

variable (config : ModbusConfig)

def verifyDelay : Io Unit :=
  if config.verifyDelay then ask .sleep else pure ()

def verifyReg (unit : BitVec 8) (reg : Register) (tp : ModbusType) (bit : Option (BitVec 8))
    (verifyValue : Value) : Io Unit := do
  verifyDelay config
  ask .opTimeout
  let data <- busGet crates unit reg none tp bit
  let val <- firstValue data
  if crates.sameValue val verifyValue then pure ()
  else .fail { kind := .failed, message := "modbus set op verification failed" }

def busSet (unit : BitVec 8) (reg : Register) (value : Value) (tp : Option ModbusType)
    (bit : Option (BitVec 8)) (verify : Bool) : Io Unit :=
  let tp := defaultType reg bit tp
  if verify then do
    let verifyValue <- tp.normalizeValue crates value
    setReg crates unit reg value tp bit
    verifyReg crates config unit reg tp bit verifyValue
  else setReg crates unit reg value tp bit

def retry (attempt : Io Unit) : Nat -> Io Unit
  | 0 => attempt
  | retries + 1 => do
    match <- attempt.attempt with
    | .ok () => pure ()
    | .error _ => retry attempt retries

def set (unit : BitVec 8) (reg : Register) (value : Value) (tp : Option ModbusType)
    (bit : Option (BitVec 8)) (verify : Bool)
    (retries : Nat) : Io Unit :=
  let attempts := retry (busSet crates config unit reg value tp bit verify) retries
  match value with
  | .bool _ => attempts
  | .string _ => .fail (invalidParams errInvalidValue)
  | v => if crates.isNumeric v then attempts else .fail (invalidParams errInvalidValue)

end Eva4.ControllerModbus
