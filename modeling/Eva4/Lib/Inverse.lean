import Eva4.Lib.Table

/-!
# Two tables of the same objects

Objects that are kept in two tables, each under a key of its own that the object determines.
-/

namespace Eva4.Lib

open Table

variable {K L A : Type} [DecidableEq K] [DecidableEq L]

/-- The tables hold the same objects, each under its own keys. -/
structure Inverse (f : A -> K) (g : A -> L) (m : Table K A) (n : Table L A) : Prop where
  left : forall {k a}, m.lookup k = some a -> f a = k ∧ n.lookup (g a) = some a
  right : forall {l a}, n.lookup l = some a -> g a = l ∧ m.lookup (f a) = some a

namespace Inverse

variable {f : A -> K} {g : A -> L}

lemma empty : Inverse f g ∅ ∅ where
  left h := by cases h
  right h := by cases h

variable {m : Table K A} {n : Table L A} (h : Inverse f g m n)
include h

lemma swap : Inverse g f n m where
  left := h.right
  right := h.left

lemma unique (ha : m.lookup k = some a) (hb : m.lookup k' = some b) (hkey : g a = g b) : a = b := by
  have hfirst := (h.left ha).right
  have hsecond := (h.left hb).right
  rw [hkey, hsecond] at hfirst
  injection hfirst with heq
  exact heq.symm

lemma left_insert (hn : forall b, n.lookup (g a) = some b -> f b = f a)
    (hb : (m.insert (f a) a).lookup k = some b) :
    f b = k ∧ (n.insert (g a) a).lookup (g b) = some b := by
  rw [lookup_insert_if] at hb
  rw [lookup_insert_if]
  split at hb
  · next hk =>
    injection hb with hb
    rw [← hb, if_pos rfl]
    exact ⟨hk.symm, rfl⟩
  · next hk =>
    rcases h.left hb with ⟨hf, hg⟩
    refine ⟨hf, ?_⟩
    split
    · next heq =>
      rw [heq] at hg
      exact absurd (hf.symm.trans (hn b hg)) hk
    · exact hg

theorem insert (hm : forall b, m.lookup (f a) = some b -> g b = g a)
    (hn : forall b, n.lookup (g a) = some b -> f b = f a) :
    Inverse f g (m.insert (f a) a) (n.insert (g a) a) where
  left := h.left_insert hn
  right := h.swap.left_insert hm

lemma left_erase (ha : n.lookup (g a) = some a) (hb : (m.erase (f a)).lookup k = some b) :
    f b = k ∧ (n.erase (g a)).lookup (g b) = some b := by
  rw [lookup_erase_if] at hb
  rw [lookup_erase_if]
  split at hb
  · cases hb
  · next hk =>
    rcases h.left hb with ⟨hf, hg⟩
    refine ⟨hf, ?_⟩
    split
    · next heq =>
      rw [heq, ha] at hg
      cases hg
      exact absurd hf.symm hk
    · exact hg

lemma erase (ha : m.lookup k = some a) : Inverse f g (m.erase k) (n.erase (g a)) := by
  rcases h.left ha with ⟨rfl, hn⟩
  exact ⟨h.left_erase hn, h.swap.left_erase ha⟩

end Inverse

end Eva4.Lib
