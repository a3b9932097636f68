import Mathlib.Data.List.Sort
import Eva4.Lib.Dialog
import Eva4.Lib.Table
import Eva4.Items.Basic

/-!
# Formatted ACLs

The ACL service stores ACLs by their ids and formats them for the other services: an ACL alone, or
several ACLs combined.  The id of a combined ACL has the ids of its sources, joined with a plus.
-/

namespace Eva4.AclSvc

open Lib
open Items

class AclValue (V : Type) where
  text : String -> V
  asText : V -> Option String
  asText_text : forall s, asText (text s) = some s

abbrev Entries (V : Type) : Type :=
  Option (Table String (List V))

structure AclRecord (V : Type) where
  id : String
  admin : Bool
  read : Entries V
  write : Entries V
  denyRead : Entries V
  denyWrite : Entries V
  ops : Option (List String)
  metaInfo : Entries V

structure AclData (V : Type) where
  id : String
  fromIds : List String
  admin : Bool
  read : Entries V
  write : Entries V
  denyRead : Entries V
  denyWrite : Entries V
  ops : Option (List String)
  metaInfo : Entries V

variable {V : Type}

/-!
## Stored ACLs
-/

def idAllowedSymbols : List Char :=
  "_.()[]-\\".toList

section

variable (isAlphanumeric : Char -> Bool)

/-- Rust's `char::is_alphanumeric` is given. -/
def invalidSymbol (id : String) : Option Char :=
  id.toList.find? fun c => !isAlphanumeric c && !idAllowedSymbols.contains c && c != '/'

def ValidId (id : String) : Prop :=
  invalidSymbol isAlphanumeric id = none
deriving Decidable

/-- The ids of stored ACLs are their keys, and have been checked. -/
structure AclStore (V : Type) where
  acls : Table String (AclRecord V)
  keyed : forall k acl, AList.lookup k acls = some acl -> acl.id = k
  valid : forall k acl, AList.lookup k acls = some acl -> ValidId isAlphanumeric k

end

namespace AclStore

variable {isAlphanumeric : Char -> Bool}

def empty : AclStore isAlphanumeric V where
  acls := ∅
  keyed := by
    intro k acl h
    cases h
  valid := by
    intro k acl h
    cases h

def insert (store : AclStore isAlphanumeric V) (acl : AclRecord V)
    (h : ValidId isAlphanumeric acl.id) : AclStore isAlphanumeric V where
  acls := AList.insert acl.id acl store.acls
  keyed := Table.forall_insert store.keyed rfl
  valid := Table.forall_insert store.valid h

variable (store : AclStore isAlphanumeric V)

def has (id : String) : Bool :=
  (AList.lookup id store.acls).isSome

variable {id : String}

lemma has_of_lookup {store : AclStore isAlphanumeric V}
    (h : AList.lookup id store.acls = some acl) : store.has id = true := by
  unfold has
  rw [h]
  rfl

lemma validId_of_has (h : store.has id = true) : ValidId isAlphanumeric id := by
  rcases Option.isSome_iff_exists.mp h with ⟨acl, hacl⟩
  exact store.valid id acl hacl

lemma not_has {store : AclStore isAlphanumeric V} (h : AList.lookup id store.acls = none) :
    ¬ store.has id = true := by
  unfold has
  rw [h]
  exact Bool.false_ne_true

end AclStore

/-!
## Ids of combined ACLs
-/

def aclNone : String := "none"

def joinIds : List String -> String
  | [] => ""
  | [id] => id
  | id :: rest => id ++ "+" ++ joinIds rest

def sortIds (ids : List String) : List String :=
  ids.insertionSort fun a b => a <= b

variable {id : String} {config : FormatConfig} {data : AclData V}

lemma mem_sortIds : id ∈ sortIds ids <-> id ∈ ids :=
  List.mem_insertionSort _

def combinedId (ids : List String) : String :=
  if ids.isEmpty then aclNone else joinIds (sortIds ids)

lemma plus_mem_joinIds : '+' ∈ (joinIds (a :: b :: rest)).toList := by
  change '+' ∈ (a ++ "+" ++ joinIds (b :: rest)).toList
  rw [String.toList_append, String.toList_append]
  exact List.mem_append_left _ (List.mem_append_right _ List.mem_cons_self)

lemma ValidId.no_plus (hplus : isAlphanumeric '+' = false) (h : ValidId isAlphanumeric id) :
    '+' ∉ id.toList := by
  intro hmem
  apply List.find?_eq_none.mp h '+' hmem
  rw [hplus]
  decide

theorem combinedId_eq_iff (hid : '+' ∉ id.toList) :
    combinedId ids = id <-> ids = [id] ∨ (ids = [] ∧ id = aclNone) := by
  cases ids with
  | nil =>
    constructor
    · intro h
      exact Or.inr ⟨rfl, h.symm⟩
    · intro h
      rcases h with hsingle | hnone
      · cases hsingle
      · exact hnone.right.symm
  | cons first rest =>
    change joinIds (sortIds (first :: rest)) = id <-> _
    have hperm : (sortIds (first :: rest)).Perm (first :: rest) := List.perm_insertionSort _ _
    constructor
    · intro h
      apply Or.inl
      cases hsorted : sortIds (first :: rest) with
      | nil =>
        rw [hsorted] at hperm
        cases List.nil_perm.mp hperm
      | cons a more =>
        rw [hsorted] at h hperm
        cases more with
        | nil =>
          rw [← List.singleton_perm.mp hperm]
          exact congrArg (fun a => [a]) h
        | cons b others =>
          rw [← h] at hid
          exact absurd plus_mem_joinIds hid
    · intro h
      rcases h with hsingle | hnone
      · rw [hsingle]
        rfl
      · cases hnone.left

def MadeFrom (ids : List String) (data : AclData V) : Prop :=
  data.id = joinIds (sortIds ids) ∧ forall id, id ∈ data.fromIds <-> id ∈ ids

lemma MadeFrom.isEmpty (h : MadeFrom ids data) : data.fromIds.isEmpty = ids.isEmpty := by
  rw [Bool.eq_iff_iff, List.isEmpty_iff, List.isEmpty_iff, List.eq_nil_iff_forall_not_mem,
    List.eq_nil_iff_forall_not_mem]
  constructor
  · intro hnot id hmem
    exact hnot id ((h.right id).mpr hmem)
  · intro hnot id hmem
    exact hnot id ((h.right id).mp hmem)

/-!
## Requested ACLs
-/

inductive IdOrList where
  | single (id : String)
  | multiple (ids : List String)

def IdOrList.ids : IdOrList -> List String
  | .single id => [id]
  | .multiple ids => ids

structure FormatConfig where
  strictAclFormatting : Bool
  forbidEmptyAcls : Bool

def accessError (message : String) : Error where
  kind := .accessDenied
  message := message

def noSuchAcl (id : String) : Error :=
  accessError ("no such ACL: " ++ id)

def emptyData : AclData V where
  id := ""
  fromIds := []
  admin := false
  read := none
  write := none
  denyRead := none
  denyWrite := none
  ops := none
  metaInfo := none

def AclData.ofAcl (acl : AclRecord V) : AclData V where
  id := acl.id
  fromIds := [acl.id]
  admin := acl.admin
  read := acl.read
  write := acl.write
  denyRead := acl.denyRead
  denyWrite := acl.denyWrite
  ops := acl.ops
  metaInfo := acl.metaInfo

variable {isAlphanumeric : Char -> Bool}

def findAcls (config : FormatConfig) (store : AclStore isAlphanumeric V) :
    List String -> EResult (List (AclRecord V))
  | [] => .ok []
  | id :: rest =>
    match AList.lookup id store.acls with
    | some acl => (findAcls config store rest).map fun acls => acl :: acls
    | none =>
      if config.strictAclFormatting then .error (noSuchAcl id) else findAcls config store rest

def formatSingle (config : FormatConfig) (store : AclStore isAlphanumeric V) (id : String) :
    EResult (AclData V) :=
  match AList.lookup id store.acls with
  | some acl => .ok (.ofAcl acl)
  | none => if config.strictAclFormatting then .error (noSuchAcl id) else .ok emptyData

def checkEmpty (config : FormatConfig) (data : AclData V) : EResult (AclData V) :=
  if data.fromIds.isEmpty then
    if config.forbidEmptyAcls then .error (accessError "empty ACL")
    else .ok { data with id := aclNone }
  else .ok data

def foundIds (store : AclStore isAlphanumeric V) (i : IdOrList) : List String :=
  i.ids.filter store.has

lemma exists_of_map_ok {x : EResult A} (h : x.map f = .ok b) : exists a, x = .ok a ∧ f a = b := by
  cases x with
  | ok a =>
    injection h with h
    exact ⟨a, rfl, h⟩
  | error e => cases h

lemma findAcls_ids {store : AclStore isAlphanumeric V} {ids : List String}
    (h : findAcls config store ids = .ok acls) : acls.map AclRecord.id = ids.filter store.has := by
  induction ids generalizing acls with
  | nil =>
    cases h
    rfl
  | cons id rest ih =>
    unfold findAcls at h
    split at h
    · next acl hacl =>
      rcases exists_of_map_ok h with ⟨found, hfound, hacls⟩
      rw [← hacls, List.map_cons, ih hfound, store.keyed id acl hacl,
        List.filter_cons_of_pos (AclStore.has_of_lookup hacl)]
    · next hnone =>
      split at h
      · cases h
      · rw [ih h, List.filter_cons_of_neg (AclStore.not_has hnone)]

lemma formatSingle_ok {store : AclStore isAlphanumeric V}
    (h : formatSingle config store id = .ok data) : MadeFrom ([id].filter store.has) data := by
  unfold formatSingle at h
  split at h
  · next acl hacl =>
    injection h with h
    rw [← h, List.filter_cons_of_pos (AclStore.has_of_lookup hacl), List.filter_nil,
      <- store.keyed id acl hacl]
    exact ⟨rfl, fun _ => Iff.rfl⟩
  · next hnone =>
    split at h
    · cases h
    · injection h with h
      rw [← h, List.filter_cons_of_neg (AclStore.not_has hnone), List.filter_nil]
      exact ⟨rfl, fun _ => Iff.rfl⟩

lemma checkEmpty_ok (hmade : MadeFrom ids data) (h : checkEmpty config data = .ok data') :
    data'.id = combinedId ids ∧ forall id, id ∈ data'.fromIds <-> id ∈ ids := by
  unfold checkEmpty at h
  rw [hmade.isEmpty] at h
  unfold combinedId
  split at h
  · next hempty =>
    split at h
    · cases h
    · injection h with h
      rw [← h, if_pos hempty]
      exact ⟨rfl, hmade.right⟩
  · next hsome =>
    injection h with h
    rw [← h, if_neg hsome]
    exact hmade

/-!
## The id of the API key
-/

section KeyId

variable [AclValue V]

def AclData.setKeyId (data : AclData V) : Option String -> AclData V
  | none => data
  | some k =>
    { data with
      metaInfo := some (AList.insert "api_key_id" [AclValue.text k] (data.metaInfo.getD ∅)) }

/-- Where the other services look for the id of an API key. -/
def AclData.apiKeyId (data : AclData V) : Option String := do
  let entries <- data.metaInfo
  let values <- AList.lookup "api_key_id" entries
  let value <- values.head?
  AclValue.asText value

lemma apiKeyId_setKeyId : (data.setKeyId (some k)).apiKeyId = some k := by
  exact AclValue.asText_text k

end KeyId

/-!
## Combined ACLs
-/

def addValues {A : Type} [DecidableEq A] (values set : List A) : List A :=
  values.foldl (fun set value => set.insert value) set

lemma mem_addValues [DecidableEq A] {set : List A} :
    a ∈ addValues values set <-> a ∈ values ∨ a ∈ set := by
  induction values generalizing set with
  | nil =>
    constructor
    · exact Or.inr
    · intro h
      rcases h with hnil | hset
      · cases hnil
      · exact hset
  | cons value rest ih =>
    change a ∈ addValues rest (set.insert value) <-> _
    rw [ih, List.mem_insert_iff, List.mem_cons]
    constructor
    · intro h
      rcases h with hrest | hset
      · exact Or.inl (Or.inr hrest)
      · rcases hset with hvalue | hold
        · exact Or.inl (Or.inl hvalue)
        · exact Or.inr hold
    · intro h
      cases h with
      | inr hold => exact Or.inr (Or.inr hold)
      | inl hvalues =>
        rcases hvalues with hvalue | hrest
        · exact Or.inr (Or.inl hvalue)
        · exact Or.inl hrest

def formOps (src dst : Option (List String)) : Option (List String) :=
  match src, dst with
  | none, dst => dst
  | some ops, none => some ops
  | some ops, some set => some (addValues ops set)

variable [DecidableEq V]

def addEntry (entries : Table String (List V)) (name : String) (values : List V) :
    Table String (List V) :=
  match AList.lookup name entries with
  | some set => AList.insert name (addValues values set) entries
  | none => AList.insert name values entries

def formField (src dst : Entries V) : Entries V :=
  match src, dst with
  | none, dst => dst
  | some r, none => some r
  | some r, some entries =>
    some (r.entries.foldl (fun entries e => addEntry entries e.1 e.2) entries)

def AclData.add (data : AclData V) (acl : AclRecord V) : AclData V :=
  { data with
    admin := data.admin || acl.admin
    read := formField acl.read data.read
    write := formField acl.write data.write
    denyRead := formField acl.denyRead data.denyRead
    denyWrite := formField acl.denyWrite data.denyWrite
    ops := formOps acl.ops data.ops
    metaInfo := formField acl.metaInfo data.metaInfo }

def AclData.combine (acls : List (AclRecord V)) : AclData V :=
  { acls.foldl AclData.add emptyData with
    id := joinIds (sortIds (acls.map AclRecord.id))
    fromIds := addValues (sortIds (acls.map AclRecord.id)) [] }

lemma combine_madeFrom (acls : List (AclRecord V)) :
    MadeFrom (acls.map AclRecord.id) (AclData.combine acls) := by
  refine ⟨rfl, ?_⟩
  intro id
  change id ∈ addValues (sortIds (acls.map AclRecord.id)) [] <-> _
  rw [mem_addValues, mem_sortIds]
  constructor
  · intro hmem
    exact Or.resolve_right hmem List.not_mem_nil
  · exact Or.inl

def formatSources (config : FormatConfig) (store : AclStore isAlphanumeric V) :
    IdOrList -> EResult (AclData V)
  | .single id => formatSingle config store id
  | .multiple ids => (findAcls config store ids).map .combine

lemma formatSources_ok {store : AclStore isAlphanumeric V}
    (h : formatSources config store i = .ok data) : MadeFrom (foundIds store i) data := by
  cases i with
  | single id => exact formatSingle_ok h
  | multiple ids =>
    rcases exists_of_map_ok h with ⟨acls, hacls, hdata⟩
    have hmade := combine_madeFrom acls
    rw [findAcls_ids hacls, hdata] at hmade
    exact hmade

/-!
## The request
-/

variable [AclValue V]

def formatAcl (config : FormatConfig) (store : AclStore isAlphanumeric V) (i : IdOrList)
    (keyId : Option String) : EResult (AclData V) := do
  let data <- formatSources config store i
  let data <- checkEmpty config data
  .ok (data.setKeyId keyId)

theorem formatAcl_ok (h : formatAcl config store i (some k) = .ok data) :
    data.id = combinedId (foundIds store i) ∧
      (forall id, id ∈ data.fromIds <-> id ∈ foundIds store i) ∧ data.apiKeyId = some k := by
  rcases exists_of_bind_ok h with ⟨sources, hsources, hrest⟩
  rcases exists_of_bind_ok hrest with ⟨checked, hchecked, hdata⟩
  injection hdata with hdata
  rcases checkEmpty_ok (formatSources_ok hsources) hchecked with ⟨hid, hfrom⟩
  rw [← hdata]
  exact ⟨hid, hfrom, apiKeyId_setKeyId⟩

end Eva4.AclSvc
