import Mathlib.Data.List.Basic
import Mathlib.Tactic.NormNum

/-!
# Byte strings

Byte strings as lists of bytes: the bytes of a string, little endian numbers, and the fields of
a byte string that are separated by a byte.
-/

namespace Eva4.Lib

abbrev Bytes : Type :=
  List UInt8

/-!
## Strings
-/

def asBytes (s : String) : Bytes :=
  s.toUTF8.data.toList

def fromUtf8 (bytes : Bytes) : Option String :=
  String.fromUTF8? ⟨bytes.toArray⟩

@[simp]
lemma fromUtf8_asBytes : fromUtf8 (asBytes s) = some s := by
  have hvalid : ByteArray.IsValidUTF8 ⟨(asBytes s).toArray⟩ := s.isValidUTF8
  rw [fromUtf8, String.fromUTF8?, dif_pos hvalid]
  rfl

lemma length_asBytes_eq_zero_iff : (asBytes s).length = 0 <-> s = "" :=
  String.utf8ByteSize_eq_zero_iff

/-!
## Numbers
-/

def toLeBytes : Nat -> Nat -> Bytes
  | 0, _ => []
  | k + 1, n => UInt8.ofNat n :: toLeBytes k (n / 256)

def fromLeBytes : Bytes -> Nat
  | [] => 0
  | byte :: rest => byte.toNat + 256 * fromLeBytes rest

@[simp]
lemma length_toLeBytes : (toLeBytes k n).length = k := by
  induction k generalizing n with
  | zero => rfl
  | succ k ih => rw [toLeBytes, List.length_cons, ih]

lemma fromLeBytes_toLeBytes : fromLeBytes (toLeBytes k n) = n % 256 ^ k := by
  induction k generalizing n with
  | zero => rw [pow_zero, Nat.mod_one, toLeBytes, fromLeBytes]
  | succ k ih =>
    have hbyte : (UInt8.ofNat n).toNat = n % 256 := UInt8.toNat_ofNat'
    rw [toLeBytes, fromLeBytes, ih, hbyte, pow_succ, mul_comm (256 ^ k), Nat.mod_mul]

def wordBytes (k : Nat) (word : BitVec (8 * k)) : Bytes :=
  toLeBytes k word.toNat

def wordOf (k : Nat) (bytes : Bytes) : BitVec (8 * k) :=
  BitVec.ofNat (8 * k) (fromLeBytes bytes)

@[simp]
lemma length_wordBytes : (wordBytes k word).length = k :=
  length_toLeBytes

@[simp]
lemma wordOf_wordBytes : wordOf k (wordBytes k word) = word := by
  have hpow : 256 ^ k = 2 ^ (8 * k) := by
    rw [pow_mul]
    norm_num
  rw [wordOf, wordBytes, fromLeBytes_toLeBytes, hpow, Nat.mod_eq_of_lt word.isLt,
    BitVec.ofNat_toNat, BitVec.setWidth_eq]

/-!
## Fields
-/

section Fields

variable {A : Type} [DecidableEq A]

def splitOnce (sep : A) : List A -> Option (List A × List A)
  | [] => none
  | a :: rest =>
    if a = sep then some ([], rest)
    else (splitOnce sep rest).map fun parts => (a :: parts.1, parts.2)

/-- At most so many fields; the last one may hold separators. -/
def splitn (sep : A) : Nat -> List A -> List (List A)
  | 0, _ => []
  | 1, data => [data]
  | n + 2, data =>
    match splitOnce sep data with
    | none => [data]
    | some parts => parts.1 :: splitn sep (n + 1) parts.2

lemma splitOnce_append (h : sep ∉ field) {rest : List A} :
    splitOnce sep (field ++ sep :: rest) = some (field, rest) := by
  induction field with
  | nil => rw [List.nil_append, splitOnce, if_pos rfl]
  | cons a field ih =>
    have hne : a ≠ sep := fun heq => h (heq ▸ List.mem_cons_self)
    have htail := ih fun hmem => h (List.mem_cons_of_mem a hmem)
    rw [List.cons_append, splitOnce, if_neg hne, htail]
    rfl

lemma splitn_append (h : sep ∉ field) {n : Nat} {rest : List A} :
    splitn sep (n + 2) (field ++ sep :: rest) = field :: splitn sep (n + 1) rest := by
  rw [splitn, splitOnce_append h]

end Fields

end Eva4.Lib
