import Eva4.Lib.Mask
import Eva4.Items.Basic

/-!
# Access control lists

An ACL comes from the authentication service.  What it allows for items and operations is taken
from the common crate as it is; for the files of the private directory there are lists of masks,
which are matched against a path chunk by chunk.
-/

namespace Eva4.Hmi

open Lib
open Items

def pathChunks (path : String) : List String :=
  (path.toList.splitOn '/').map String.ofList

/-- The chunks of a mask: one stands for any chunk, and one for any rest of a path. -/
structure PathMask where
  chunks : List String
deriving DecidableEq

def PathMask.covers (mask : PathMask) (path : String) : Bool :=
  maskMatches "+" "#" mask.chunks (pathChunks path)

structure AccessList where
  allow : List PathMask
  deny : List PathMask
deriving DecidableEq

def AccessList.allows (list : AccessList) (path : String) : Bool :=
  (list.allow.any fun mask => mask.covers path) && !(list.deny.any fun mask => mask.covers path)

inductive Op where
  | log
  | developer
  | moderator
deriving DecidableEq

structure Acl where
  id : String
  fromIds : List String
  apiKeyId : Option String
  admin : Bool
  checkOp : Op -> Bool
  checkItemRead : OID -> Bool
  checkItemWrite : OID -> Bool
  checkItemMaskRead : OIDMask -> Bool
  /-- The error when access is refused. -/
  denied : String -> Error
  pvtRead : AccessList
  pvtWrite : AccessList

def Acl.checkPvtRead (acl : Acl) (path : String) : Bool :=
  acl.admin || acl.pvtRead.allows path

def Acl.checkPvtWrite (acl : Acl) (path : String) : Bool :=
  acl.admin || acl.pvtWrite.allows path

def Acl.ofPvt (read write : AccessList) : Acl where
  id := "pvt"
  fromIds := ["pvt"]
  apiKeyId := none
  admin := false
  checkOp := fun _ => false
  checkItemRead := fun _ => false
  checkItemWrite := fun _ => false
  checkItemMaskRead := fun _ => false
  denied := fun message => { kind := .accessDenied, message := message }
  pvtRead := read
  pvtWrite := write

def AccessList.allBut (mask : PathMask) : AccessList where
  allow := [{ chunks := ["#"] }]
  deny := [mask]

lemma AccessList.allBut_allows : (AccessList.allBut mask).allows path = !mask.covers path := by
  have hall : PathMask.covers { chunks := ["#"] } path = true := by
    unfold PathMask.covers maskMatches
    exact if_pos rfl
  simp only [allows, allBut, List.any_cons, List.any_nil, hall, Bool.or_false, Bool.true_and]

end Eva4.Hmi
