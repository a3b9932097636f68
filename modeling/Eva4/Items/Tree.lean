import Eva4.Lib.Table
import Eva4.Items.Basic

/-!
# Item trees

Items of one kind are kept in a tree that branches on the chunks of their ids.
Every node holds the items whose id ends at it and, redundantly, all the items
stored below it, so that a wildcard lookup does not have to walk the subtree.
-/

namespace Eva4.Items

open Lib

variable {V : Type}

inductive ItemTree (V : Type) where
  | node (childs : List (Sigma fun _ : String => ItemTree V))
      (members : Table OID (Item V)) (membersWildcard : Table OID (Item V))

namespace ItemTree

def childs : ItemTree V -> List (Sigma fun _ : String => ItemTree V)
  | .node cs _ _ => cs

def members : ItemTree V -> Table OID (Item V)
  | .node _ ms _ => ms

def membersWildcard : ItemTree V -> Table OID (Item V)
  | .node _ _ ws => ws

def empty : ItemTree V :=
  .node [] ∅ ∅

def isEmpty (tree : ItemTree V) : Bool :=
  tree.childs.isEmpty && tree.members.entries.isEmpty

end ItemTree

/-!
## Lookup, insertion and removal

The recursion follows the chunks of the id.  An early return leaves the tree as
far as it has been changed, so every function gives back the tree along with its
result.
-/

def getItemRec : ItemTree V -> List String -> Option (Item V)
  | .node cs _ _, chunk :: sp =>
    match List.dlookup chunk cs with
    | some child => getItemRec child sp
    | none => none
  | .node _ ms _, [] => ms.entries.head?.map Sigma.snd

def removeItemRec : ItemTree V -> List String -> OID -> Option (Item V) × ItemTree V
  | .node cs ms ws, chunk :: sp, oid =>
    match AList.lookup oid ws with
    | none => (none, .node cs ms ws)
    | some _ =>
      match List.dlookup chunk cs with
      | none => (none, .node cs ms (AList.erase oid ws))
      | some c =>
        match removeItemRec c sp oid with
        | (none, c') => (none, .node (List.kinsert chunk c' cs) ms (AList.erase oid ws))
        | (some item, c') =>
          if c'.isEmpty then (some item, .node (List.kerase chunk cs) ms (AList.erase oid ws))
          else (some item, .node (List.kinsert chunk c' cs) ms (AList.erase oid ws))
  | .node cs ms ws, [], oid => (AList.lookup oid ms, .node cs (AList.erase oid ms) ws)

def alreadyRegistered (oid : OID) : Error where
  kind := .resourceAlreadyExists
  message := "item " ++ oid.asStr ++ " is already registered"

def appendItemRec : ItemTree V -> List String -> Item V -> Bool -> EResult Unit × ItemTree V
  | .node cs ms ws, chunk :: sp, item, replace =>
    if item.oid ∈ ws ∧ replace = false then (.error (alreadyRegistered item.oid), .node cs ms ws)
    else
      match List.dlookup chunk cs with
      | some c =>
        match appendItemRec c sp item replace with
        | (r, c') => (r, .node (List.kinsert chunk c' cs) ms (AList.insert item.oid item ws))
      | none =>
        match appendItemRec ItemTree.empty sp item replace with
        | (.error e, _) => (.error e, .node cs ms (AList.insert item.oid item ws))
        | (.ok (), child) =>
          (.ok (), .node (List.kinsert chunk child cs) ms (AList.insert item.oid item ws))
  | .node cs ms ws, [], item, replace =>
    if item.oid ∈ ms ∧ replace = false then (.error (alreadyRegistered item.oid), .node cs ms ws)
    else (.ok (), .node cs (AList.insert item.oid item ms) ws)

/-!
## What a tree stores
-/

namespace ItemTree

def subtree : ItemTree V -> List String -> Option (ItemTree V)
  | tree, [] => some tree
  | .node cs _ _, chunk :: sp =>
    match List.dlookup chunk cs with
    | some child => subtree child sp
    | none => none

/-- The node at the end of the path has the item among its members. -/
def Stores (tree : ItemTree V) (path : List String) (oid : OID) (item : Item V) : Prop :=
  exists n, tree.subtree path = some n ∧ AList.lookup oid n.members = some item

lemma stores_nil : (node cs ms ws).Stores [] oid item <-> AList.lookup oid ms = some item := by
  constructor
  · intro h
    rcases h with ⟨n, hn, hitem⟩
    cases hn
    exact hitem
  · intro h
    exact ⟨node cs ms ws, rfl, h⟩

lemma stores_cons : (node cs ms ws).Stores (chunk :: path) oid item <->
      exists c, List.dlookup chunk cs = some c ∧ c.Stores path oid item := by
  unfold Stores
  rw [subtree]
  cases hc : List.dlookup chunk cs with
  | none | some => simp

lemma not_stores_empty : ¬ (empty : ItemTree V).Stores path oid item := by
  intro h
  cases path with
  | nil =>
    have hlookup := stores_nil.mp h
    cases hlookup
  | cons chunk rest =>
    rcases stores_cons.mp h with ⟨c, hc, _⟩
    cases hc

lemma isEmpty_of_stores {tree : ItemTree V} (h : tree.Stores path oid item) :
    tree.isEmpty = false := by
  rcases tree with ⟨cs, ms, ws⟩
  cases path with
  | nil =>
    have hne : ms.entries ≠ [] := by
      intro hnil
      have hnone := Table.entries_eq_nil_iff.mp hnil oid
      rw [stores_nil.mp h] at hnone
      cases hnone
    simp [isEmpty, members, hne]
  | cons chunk rest =>
    rcases stores_cons.mp h with ⟨c, hc, _⟩
    have hne : cs ≠ [] := by
      intro hnil
      rw [hnil] at hc
      cases hc
    simp [isEmpty, childs, hne]

end ItemTree

end Eva4.Items
