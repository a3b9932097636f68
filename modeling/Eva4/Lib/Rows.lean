import Mathlib.Data.List.Nodup

/-!
# Rows of a table

A table as its rows by their keys.  A row that is written under a key that is taken replaces the
row that is there, or is not written.
-/

namespace Eva4.Lib

abbrev Rows (K R : Type) : Type :=
  K -> Option R

inductive OnConflict where
  | replace
  | keep
deriving DecidableEq, Repr

def OnConflict.resolve {R : Type} : OnConflict -> Option R -> R -> R
  | replace, _, new => new
  | keep, old, new => old.getD new

namespace Rows

variable {K R : Type} [DecidableEq K] (c : OnConflict) (rows : Rows K R)

def put (k : K) (r : R) : Rows K R :=
  fun k' => if k' = k then some (c.resolve (rows k) r) else rows k'

def putAll (new : List (K × R)) : Rows K R :=
  new.foldl (fun rows row => rows.put c row.1 row.2) rows

lemma putAll_cons : rows.putAll c (row :: new) = (rows.put c row.1 row.2).putAll c new :=
  rfl

lemma put_same : rows.put c k r k = some (c.resolve (rows k) r) :=
  if_pos rfl

variable {c} in
lemma put_other {rows : Rows K R} (h : k' ≠ k) : rows.put c k r k' = rows k' :=
  if_neg h

lemma put_keep_apply : rows.put .keep k r k' = (rows k').or (if k' = k then some r else none) := by
  by_cases heq : k' = k
  · rw [heq, put_same, if_pos rfl]
    cases rows k with
    | none | some => rfl
  · rw [put_other heq, if_neg heq, Option.or_none]

/-- New rows differ neither from each other nor from the rows that are there. -/
structure Agree (new : List (K × R)) : Prop where
  old : forall row, row ∈ new -> forall r, rows row.1 = some r -> r = row.2
  same : forall row, row ∈ new -> forall row', row' ∈ new -> row'.1 = row.1 -> row'.2 = row.2

theorem putAll_agree {rows : Rows K R} (h : rows.Agree new) :
    rows.putAll .replace new = rows.putAll .keep new := by
  induction new generalizing rows with
  | nil => rfl
  | cons row new ih =>
    have hput : rows.put .replace row.1 row.2 = rows.put .keep row.1 row.2 := by
      unfold put OnConflict.resolve
      cases hold : rows row.1 with
      | none => rfl
      | some r => rw [h.old row List.mem_cons_self r hold]; rfl
    rw [putAll_cons, putAll_cons, hput]
    apply ih
    constructor
    · intro row' hrow' r hr
      rw [put_keep_apply, Option.or_eq_some_iff] at hr
      rcases hr with hold | hnew
      · exact h.old row' (List.mem_cons_of_mem _ hrow') r hold
      · rcases Option.ite_none_right_eq_some.mp hnew.right with ⟨hkey, hr⟩
        cases hr
        exact (h.same row List.mem_cons_self row' (List.mem_cons_of_mem _ hrow') hkey).symm
    · exact fun a ha b hb => h.same a (List.mem_cons_of_mem _ ha) b (List.mem_cons_of_mem _ hb)

lemma putAll_append : rows.putAll c (new ++ more) = (rows.putAll c new).putAll c more :=
  List.foldl_append

end Rows

end Eva4.Lib
