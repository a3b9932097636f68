import Mathlib.Order.Defs.PartialOrder
import Mathlib.Data.List.Basic

/-!
# Lists of versions

A list has versions of several keys.  It is in order if the versions of each key do not go down,
and the last version of a key is the newest one then.
-/

namespace Eva4.Lib

variable {X K T : Type} [Preorder T]

def InOrder (key : X -> K) (version : X -> T) (xs : List X) : Prop :=
  xs.Pairwise fun x y => key x = key y -> version x <= version y

variable {key : X -> K} {version : X -> T}

lemma InOrder.concat (h : InOrder key version xs)
    (hy : forall x, x ∈ xs -> key x = key y -> version x <= version y) :
    InOrder key version (xs ++ [y]) := by
  apply List.pairwise_append.mpr
  refine ⟨h, List.pairwise_singleton _ y, ?_⟩
  intro x hx z hz
  rw [List.mem_singleton.mp hz]
  exact hy x hx

def lastOf [DecidableEq K] (key : X -> K) (k : K) : List X -> Option X
  | [] => none
  | x :: xs =>
    match lastOf key k xs with
    | some last => some last
    | none => if key x = k then some x else none

lemma exists_lastOf [DecidableEq K] (key : X -> K) (hx : x ∈ xs) :
    exists last, lastOf key (key x) xs = some last := by
  induction xs with
  | nil => cases hx
  | cons y ys ih =>
    unfold lastOf
    cases hrest : lastOf key (key x) ys with
    | some last => exact ⟨last, rfl⟩
    | none =>
      rcases List.mem_cons.mp hx with heq | hys
      · rw [heq]
        exact ⟨y, if_pos rfl⟩
      · rcases ih hys with ⟨last, hlast⟩
        rw [hrest] at hlast
        cases hlast

lemma mem_of_lastOf [DecidableEq K]
    (h : lastOf key k xs = some last) : last ∈ xs ∧ key last = k := by
  induction xs with
  | nil => cases h
  | cons y ys ih =>
    unfold lastOf at h
    split at h
    · next rest hrest =>
      injection h with hlast
      rw [hlast] at hrest
      exact ⟨List.mem_cons_of_mem y (ih hrest).left, (ih hrest).right⟩
    · split at h
      · next hkey =>
        cases h
        exact ⟨List.mem_cons_self, hkey⟩
      · cases h

lemma InOrder.le_lastOf [DecidableEq K] (hxs : InOrder key version xs)
    (h : lastOf key k xs = some last) :
    forall y, y ∈ xs -> key y = k -> version y <= version last := by
  induction xs with
  | nil => cases h
  | cons x xs ih =>
    rcases List.pairwise_cons.mp hxs with ⟨hhead, hrest⟩
    intro y hy hkey
    unfold lastOf at h
    split at h
    · next rest hlast =>
      injection h with heq
      rw [heq] at hlast
      rcases mem_of_lastOf hlast with ⟨hmem, hlastKey⟩
      rcases List.mem_cons.mp hy with hyx | hyxs
      · rw [hyx] at hkey
        rw [hyx]
        exact hhead last hmem (hkey.trans hlastKey.symm)
      · exact ih hrest hlast y hyxs hkey
    · next hnone =>
      rcases List.mem_cons.mp hy with hyx | hyxs
      · rw [← hyx, if_pos hkey] at h
        injection h with heq
        rw [heq]
      · rcases exists_lastOf key hyxs with ⟨other, hother⟩
        rw [hkey, hnone] at hother
        cases hother

end Eva4.Lib
