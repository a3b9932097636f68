import Eva4.Core.LocalItems

/-!
# Steps that only tell

Announcing an item takes many steps that read the inventory, send messages and schedule
saves.  None of them changes an item or what is stored of its configuration.
-/

namespace Eva4.Core

open Lib Items Prog

variable {V : Type}

/-!
## The persistent store
-/

def Message.store (message : Message V) (store : OID -> Option (ItemRecord V)) :
    OID -> Option (ItemRecord V) :=
  match message with
  | .saveConfig oid config => Function.update store oid (some config)
  | .saveConfigs configs =>
    configs.foldl (fun store c => Function.update store c.1 (some c.2)) store
  | .destroyItem oid => Function.update store oid none
  | .destroyItems oids => oids.foldl (fun store oid => Function.update store oid none) store
  | _ => store

def World.stored (w : World V) : OID -> Option (ItemRecord V) :=
  w.sent.foldr Message.store fun _ => none

/-!
## Telling
-/

structure Tells (w w' : World V) : Prop where
  toMem : w'.toMem = w.toMem
  invProcess : w'.invProcess = w.invProcess
  stored : w'.stored = w.stored

lemma Tells.refl (w : World V) : Tells w w :=
  ⟨rfl, rfl, rfl⟩

structure TellRules (allowed : Held Lock -> Label V -> (World V -> World V) -> Prop) : Prop where
  tells : forall held update, (forall w, Tells w (update w)) -> allowed held .plain update

namespace TellRules

lemma withStateProcessor {p : CoreM V R} (hp : forall held, p.Uses allowed held) :
    (withStateProcessor lock p).Uses allowed held := by
  cases lock with
  | true => exact Uses.locked (hp _)
  | false => exact hp held

variable {allowed : Held Lock -> Label V -> (World V -> World V) -> Prop} (h : TellRules allowed)
include h

lemma read (f : World V -> R) : (read .plain f : CoreM V R).Uses allowed held :=
  Uses.read (h.tells held _ Tells.refl)

lemma processNewState : (processNewState env oid st db).Uses allowed held := by
  apply Uses.bind (Uses.atomic (h.tells held _ fun _ => ⟨rfl, rfl, rfl⟩))
  intro _
  cases db with
  | none => exact Uses.modify (h.tells held _ fun _ => ⟨rfl, rfl, rfl⟩)
  | some db =>
    apply Uses.ite
    · intro _
      exact Uses.modify (h.tells held _ fun _ => ⟨rfl, rfl, rfl⟩)
    · intro _
      exact Uses.ret ()

variable [EvaCommon V]

lemma announceItem (item : Item V) : (announceItem env item).Uses allowed held := by
  apply Uses.bind (h.read _)
  intro st
  cases st with
  | none => exact Uses.ret ()
  | some st => exact h.processNewState

lemma announceAndPush : (announceAndPush env item).Uses allowed held := by
  apply Uses.bind (h.read _)
  intro st
  cases st with
  | none => exact Uses.ret ()
  | some st =>
    apply Uses.bind h.processNewState
    intro _
    cases dbState env item.oid st with
    | none => exact Uses.ret ()
    | some db => exact Uses.modify (h.tells held _ fun _ => ⟨rfl, rfl, rfl⟩)

lemma announceDeployed (lock : Bool) (oid : OID) :
    (announceDeployed env lock oid).Uses allowed held := by
  apply Uses.locked
  apply Uses.bind (h.read _)
  intro item
  cases item with
  | none => exact Uses.ret ()
  | some item =>
    apply Uses.bind (h.read _)
    intro st
    exact Uses.when (withStateProcessor fun _ => h.announceAndPush)

end TellRules

end Eva4.Core
