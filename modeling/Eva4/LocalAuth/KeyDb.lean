import Eva4.Lib.Inverse
import Eva4.Lib.Machine
import Eva4.Items.Basic

/-!
# The API key database

The keys are kept in two tables, by their ids and by their values, and in the registry.  The
requests change the tables first, and then write to the registry what they have changed.
-/

namespace Eva4.LocalAuth

open Lib
open Items

structure Key where
  id : String
  key : String
  acls : List String
deriving DecidableEq

structure KeyDb where
  keysById : Table String Key
  keysByK : Table String Key

namespace KeyDb

def empty : KeyDb where
  keysById := ∅
  keysByK := ∅

def busyError (key k : Key) : Error where
  kind := .busy
  message := "API key " ++ key.id ++ " has the same value as the existing: " ++ k.id

def insert (db : KeyDb) (key : Key) : KeyDb where
  keysById := db.keysById.insert key.id key
  keysByK := db.keysByK.insert key.key key

variable (db : KeyDb)

def append (key : Key) : EResult KeyDb :=
  match db.keysByK.lookup key.key with
  | some k => if key.id ≠ k.id then .error (busyError key k) else .ok (db.insert key)
  | none => .ok (db.insert key)

def get (id : String) : Option Key :=
  db.keysById.lookup id

def getByK (k : String) : Option Key :=
  db.keysByK.lookup k

def remove (id : String) : KeyDb :=
  match db.keysById.lookup id with
  | some key => { keysById := db.keysById.erase id, keysByK := db.keysByK.erase key.key }
  | none => db

/-- The tables hold the same keys, each under its own id and its own value. -/
def OneToOne : Prop :=
  Inverse Key.id Key.key db.keysById db.keysByK

lemma empty_oneToOne : empty.OneToOne :=
  Inverse.empty

/-!
## Operations
-/

lemma get_remove (id other : String) :
    (db.remove id).get other = if other = id then none else db.get other := by
  unfold remove get
  split
  · exact Table.lookup_erase_if other id db.keysById
  · next hid =>
    by_cases heq : other = id
    · rw [if_pos heq, heq, hid]
    · rw [if_neg heq]

lemma OneToOne.remove {db : KeyDb} (h : db.OneToOne) (id : String) : (db.remove id).OneToOne := by
  unfold KeyDb.remove
  split
  · next key hkey => exact Inverse.erase h hkey
  · exact h

lemma getByK_remove {db : KeyDb} (h : db.getByK v = none) {id : String} :
    (db.remove id).getByK v = none := by
  unfold KeyDb.remove getByK
  split
  · rw [Table.lookup_erase_if]
    split
    · rfl
    · exact h
  · exact h

lemma getByK_removed {db : KeyDb} {id : String} (h : db.get id = some key) :
    (db.remove id).getByK key.key = none := by
  have hlookup : db.keysById.lookup id = some key := h
  rw [KeyDb.remove, hlookup]
  exact (Table.lookup_erase_if ..).trans (if_pos rfl)

lemma remove_of_none {db : KeyDb} {id : String} (h : db.get id = none) : db.remove id = db := by
  have hlookup : db.keysById.lookup id = none := h
  rw [KeyDb.remove, hlookup]

lemma append_cases : (db.append key = .ok (db.insert key) ∧
        forall k, db.getByK key.key = some k -> k.id = key.id) ∨
      exists k, db.getByK key.key = some k ∧ k.id ≠ key.id ∧
        db.append key = .error (busyError key k) := by
  unfold append getByK
  cases hk : db.keysByK.lookup key.key with
  | none =>
    left
    refine ⟨rfl, ?_⟩
    intro k hsome
    cases hsome
  | some k =>
    by_cases heq : key.id = k.id
    · left
      refine ⟨if_neg (not_not_intro heq), ?_⟩
      intro k' hk'
      cases hk'
      exact heq.symm
    · exact Or.inr ⟨k, rfl, Ne.symm heq, if_pos heq⟩

lemma append_ok {db : KeyDb} (h : db.append key = .ok db') :
    db' = db.insert key ∧ forall k, db.getByK key.key = some k -> k.id = key.id := by
  rcases append_cases db with hok | hbusy
  · rw [hok.left] at h
    injection h with hdb'
    exact ⟨hdb'.symm, hok.right⟩
  · rcases hbusy with ⟨k, _, _, herror⟩
    rw [herror] at h
    cases h

lemma get_insert {key : Key} {id : String} :
    (db.insert key).get id = if id = key.id then some key else db.get id :=
  Table.lookup_insert_if id key.id key db.keysById

lemma getByK_insert : (db.insert key).getByK v = if v = key.key then some key else db.getByK v :=
  Table.lookup_insert_if v key.key key db.keysByK

lemma OneToOne.insert {db : KeyDb} (h : db.OneToOne)
    (hid : forall k, db.get key.id = some k -> k.key = key.key)
    (hvalue : forall k, db.getByK key.key = some k -> k.id = key.id) : (db.insert key).OneToOne :=
  Inverse.insert h hid hvalue

lemma get_remove_self {id : String} : (db.remove id).get id = none := by
  rw [get_remove, if_pos rfl]

theorem OneToOne.append_removed {db : KeyDb} (h : db.OneToOne)
    (happend : (db.remove key.id).append key = .ok db') :
    db' = (db.remove key.id).insert key ∧ db'.OneToOne := by
  rcases append_ok happend with ⟨hdb', hvalue⟩
  refine ⟨hdb', ?_⟩
  rw [hdb']
  apply (h.remove key.id).insert _ hvalue
  intro k hk
  rw [get_remove_self] at hk
  cases hk

end KeyDb

end Eva4.LocalAuth
