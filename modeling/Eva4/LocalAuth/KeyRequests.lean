import Eva4.LocalAuth.KeyDb

/-!
# Requests to the API key database

The service is loaded from the registry, and each request changes the database and then the
registry.  A call of the registry may fail, and the service may be loaded again at any time.
-/

namespace Eva4.LocalAuth

open Lib
open Items

/-!
## The memory part of the requests
-/

namespace KeyDb

/-- The keys of a deployment, one after the other.  A key that is rejected ends it. -/
def deploy (db : KeyDb) : List Key -> KeyDb × Option Error
  | [] => (db, none)
  | key :: rest =>
    match (db.remove key.id).append key with
    | .ok db' => deploy db' rest
    | .error e => (db.remove key.id, some e)

def undeploy (db : KeyDb) : List String -> KeyDb × List String
  | [] => (db, [])
  | id :: rest =>
    match db.get id with
    | some key =>
      let (db', ids) := undeploy (db.remove id) rest
      (db', key.id :: ids)
    | none => undeploy db rest

def load (db : KeyDb) : List (String × Key) -> EResult KeyDb
  | [] => .ok db
  | entry :: rest =>
    match db.append entry.2 with
    | .ok db' => load db' rest
    | .error e => .error e

end KeyDb

def idAllowedSymbols : List Char :=
  "_.()[]-\\".toList

/-- Rust's `char::is_alphanumeric` is given. -/
def invalidSymbol (isAlphanumeric : Char -> Bool) (key : Key) : Option Char :=
  key.id.toList.find? fun c => !isAlphanumeric c && !idAllowedSymbols.contains c && c != '/'

def symbolError (key : Key) (c : Char) : Error where
  kind := .invalidData
  message := "invalid symbol in key id " ++ key.id ++ ": " ++ c.toString

def notFoundError (id : String) : Error where
  kind := .resourceNotFound
  message := "API key " ++ id ++ " not found"

def checkSymbols (isAlphanumeric : Char -> Bool) : List Key -> Option Error
  | [] => none
  | key :: rest =>
    match invalidSymbol isAlphanumeric key with
    | some c => some (symbolError key c)
    | none => checkSymbols isAlphanumeric rest

/-!
## The registry
-/

inductive RegistryCall where
  | keySet (id : String) (key : Key)
  | keyDelete (id : String)

/-- A failure ends the calls of a request; the call that failed may have been applied. -/
structure RegistryFailure where
  after : Nat
  applied : Bool
  error : Error

abbrev Registry : Type :=
  Table String Key

variable (registry : Registry)

def Registry.apply : RegistryCall -> Registry
  | .keySet id key => registry.insert id key
  | .keyDelete id => registry.erase id

def Registry.applyAll (calls : List RegistryCall) : Registry :=
  calls.foldl Registry.apply registry

def Registry.call (calls : List RegistryCall)
    (failure : Option RegistryFailure) : Registry × EResult Unit :=
  match failure with
  | none => (registry.applyAll calls, .ok ())
  | some f =>
    if f.after < calls.length then
      (registry.applyAll (calls.take (if f.applied then f.after + 1 else f.after)), .error f.error)
    else (registry.applyAll calls, .ok ())

/-!
## The service
-/

structure KeyService where
  registry : Registry
  db : KeyDb
  ready : Bool

inductive KeyEvent where
  /-- The service is started, and gets the entries of the registry in some order. -/
  | load (entries : List (String × Key))
  | deploy (keys : List Key) (failure : Option RegistryFailure)
  | undeploy (ids : List String) (failure : Option RegistryFailure)
  | destroy (id : String) (failure : Option RegistryFailure)
  /-- The random value of the new key, if there was one. -/
  | regenerate (id : String) (random : EResult String) (failure : Option RegistryFailure)

namespace KeyService

def start : KeyService where
  registry := registry
  db := KeyDb.empty
  ready := false

section

variable (s : KeyService)

def load (entries : List (String × Key)) : KeyService :=
  match KeyDb.empty.load entries with
  | .ok db => { s with db := db, ready := true }
  | .error _ => { s with db := KeyDb.empty, ready := false }

def call (calls : List RegistryCall) (failure : Option RegistryFailure) :
    KeyService × EResult Unit :=
  let (registry, result) := s.registry.call calls failure
  ({ s with registry := registry }, result)

def deploy (isAlphanumeric : Char -> Bool) (s : KeyService) (keys : List Key)
    (failure : Option RegistryFailure) : KeyService × EResult Unit :=
  match checkSymbols isAlphanumeric keys with
  | some e => (s, .error e)
  | none =>
    match s.db.deploy keys with
    | (db, some e) => ({ s with db := db }, .error e)
    | (db, none) => { s with db := db }.call (keys.map fun key : Key => .keySet key.id key) failure

def undeploy (ids : List String) (failure : Option RegistryFailure) : KeyService × EResult Unit :=
  let (db, removed) := s.db.undeploy ids
  { s with db := db }.call (removed.map .keyDelete) failure

def destroy (id : String) (failure : Option RegistryFailure) : KeyService × EResult Unit :=
  match s.db.get id with
  | some _ => { s with db := s.db.remove id }.call [.keyDelete id] failure
  | none => (s, .error (notFoundError id))

def regenerate (id : String) (random : EResult String) (failure : Option RegistryFailure) :
    KeyService × EResult Unit :=
  match s.db.get id with
  | none => (s, .error (notFoundError id))
  | some key =>
    match random with
    | .error e => ({ s with db := s.db.remove id }, .error e)
    | .ok value =>
      let newKey := { key with key := value }
      match (s.db.remove id).append newKey with
      | .error e => ({ s with db := s.db.remove id }, .error e)
      | .ok db => { s with db := db }.call [.keySet id newKey] failure

def authKey (v : String) : EResult Key :=
  match s.db.getByK v with
  | some key => .ok key
  | none => .error { kind := .accessDenied, message := "invalid API key" }

end

def step (isAlphanumeric : Char -> Bool) : Machine KeyService KeyEvent := fun s e =>
  match e with
  | .load entries =>
    if entries.isPerm (s.registry.entries.map fun entry => (entry.1, entry.2)) then
      some (s.load entries)
    else none
  | .deploy keys failure => if s.ready then some (s.deploy isAlphanumeric keys failure).1 else none
  | .undeploy ids failure => if s.ready then some (s.undeploy ids failure).1 else none
  | .destroy id failure => if s.ready then some (s.destroy id failure).1 else none
  | .regenerate id random failure =>
    if s.ready then some (s.regenerate id random failure).1 else none

end KeyService

/-!
## What the requests keep in memory
-/

namespace KeyDb

variable {db : KeyDb} {entries : List (String × Key)}

lemma OneToOne.deploy (h : db.OneToOne) : (db.deploy keys).1.OneToOne := by
  induction keys generalizing db with
  | nil => exact h
  | cons key rest ih =>
    unfold KeyDb.deploy
    split
    · next db' happend => exact ih (h.append_removed happend).right
    · exact h.remove key.id

lemma OneToOne.undeploy (h : db.OneToOne) : (db.undeploy ids).1.OneToOne := by
  induction ids generalizing db with
  | nil => exact h
  | cons id rest ih =>
    unfold KeyDb.undeploy
    split
    · exact ih (h.remove id)
    · exact ih h

lemma getByK_deploy (h : db.getByK v = none) (hv : forall key, key ∈ keys -> key.key ≠ v) :
    (db.deploy keys).1.getByK v = none := by
  induction keys generalizing db with
  | nil => exact h
  | cons key rest ih =>
    have hremove : (db.remove key.id).getByK v = none := getByK_remove h
    unfold KeyDb.deploy
    split
    · next db' happend =>
      apply ih
      · rw [(append_ok happend).left, getByK_insert, if_neg (Ne.symm (hv key List.mem_cons_self))]
        exact hremove
      · exact fun k hk => hv k (List.mem_cons_of_mem key hk)
    · exact hremove

lemma getByK_undeploy (h : db.getByK v = none) : (db.undeploy ids).1.getByK v = none := by
  induction ids generalizing db with
  | nil => exact h
  | cons id rest ih =>
    unfold KeyDb.undeploy
    split
    · exact ih (getByK_remove h)
    · exact ih h

section

variable (hload : db.load entries = .ok db')
include hload

theorem get_load {id : String} (hget : db'.get id = some key) :
    db.get id = some key ∨ exists p, (p, key) ∈ entries ∧ key.id = id := by
  induction entries generalizing db with
  | nil =>
    injection hload with hdb
    rw [hdb]
    exact Or.inl hget
  | cons entry rest ih =>
    unfold KeyDb.load at hload
    split at hload
    · next db1 happend =>
      cases ih hload with
      | inr hrest =>
        rcases hrest with ⟨p, hp, hid⟩
        exact Or.inr ⟨p, List.mem_cons_of_mem entry hp, hid⟩
      | inl hhere =>
        rw [(append_ok happend).left, get_insert] at hhere
        split at hhere
        · next heq =>
          cases hhere
          exact Or.inr ⟨entry.1, List.mem_cons_self, heq.symm⟩
        · exact Or.inl hhere
    · cases hload

lemma get_load_other {id : String} (hother : forall entry, entry ∈ entries -> entry.2.id ≠ id) :
    db'.get id = db.get id := by
  induction entries generalizing db with
  | nil =>
    injection hload with hdb
    rw [hdb]
  | cons entry rest ih =>
    unfold KeyDb.load at hload
    split at hload
    · next db1 happend =>
      rw [ih hload fun e he => hother e (List.mem_cons_of_mem entry he),
        (append_ok happend).left, get_insert,
        if_neg (Ne.symm (hother entry List.mem_cons_self))]
    · cases hload

theorem get_load_self (hnodup : (entries.map fun e => e.2.id).Nodup) {entry : String × Key}
    (hentry : entry ∈ entries)
    : db'.get entry.2.id = some entry.2 := by
  induction entries generalizing db with
  | nil => cases hentry
  | cons head rest ih =>
    rw [List.map_cons, List.nodup_cons] at hnodup
    unfold KeyDb.load at hload
    split at hload
    · next db1 happend =>
      cases List.mem_cons.mp hentry with
      | inr hrest => exact ih hload hnodup.right hrest
      | inl heq =>
        rw [heq, get_load_other hload, (append_ok happend).left, get_insert, if_pos rfl]
        intro e he hid
        exact hnodup.left (List.mem_map.mpr ⟨e, he, hid⟩)
    · cases hload

end

def Distinct (entries : List (String × Key)) : Prop :=
  forall {p q k l}, (p, k) ∈ entries -> (q, l) ∈ entries -> k.id = l.id -> k.key = l.key

theorem OneToOne.load (h : db.OneToOne) (hload : db.load entries = .ok db')
    (hentries : Distinct entries)
    (hthere : forall {p k l}, (p, k) ∈ entries -> db.get k.id = some l -> l.key = k.key) :
    db'.OneToOne := by
  induction entries generalizing db with
  | nil =>
    cases hload
    exact h
  | cons entry rest ih =>
    unfold KeyDb.load at hload
    split at hload
    · next db1 happend =>
      rcases append_ok happend with ⟨hdb1, hvalue⟩
      have hone : db1.OneToOne := by
        rw [hdb1]
        exact h.insert (fun k hk => hthere List.mem_cons_self hk) hvalue
      apply ih hone hload
      · exact fun hp hq => hentries (List.mem_cons_of_mem _ hp) (List.mem_cons_of_mem _ hq)
      · intro p k l hk hl
        rw [hdb1, get_insert] at hl
        split at hl
        · next heq =>
          cases hl
          exact hentries List.mem_cons_self (List.mem_cons_of_mem _ hk) heq.symm
        · exact hthere (List.mem_cons_of_mem _ hk) hl
    · cases hload

end KeyDb

end Eva4.LocalAuth
