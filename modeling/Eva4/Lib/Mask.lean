import Mathlib.Data.List.Basic

/-!
# Masks

A mask is matched against a list chunk by chunk.  One chunk stands for any chunk, another one for
any rest of the list, and all others stand for themselves.
-/

namespace Eva4.Lib

variable {A : Type}

section Matching

variable [DecidableEq A] (one rest : A)

def maskMatches : List A -> List A -> Bool
  | [], chunks => chunks.isEmpty
  | m :: mask, chunks =>
    if m = rest then true
    else
      match chunks with
      | [] => false
      | c :: chunks => (decide (m = one) || decide (m = c)) && maskMatches mask chunks

variable {one rest}

lemma maskMatches_nil_of_ne (hm : m ≠ rest) : maskMatches one rest (m :: mask) [] = false :=
  if_neg hm

lemma maskMatches_cons_of_ne (hm : m ≠ rest) :
    maskMatches one rest (m :: mask) (c :: chunks) =
      ((decide (m = one) || decide (m = c)) && maskMatches one rest mask chunks) :=
  if_neg hm

lemma maskMatches_ones (hne : one ≠ rest) :
    maskMatches one rest (List.replicate n one) chunks = true <-> chunks.length = n := by
  induction n generalizing chunks with
  | zero => exact List.isEmpty_iff.trans List.length_eq_zero_iff.symm
  | succ n ih =>
    rw [List.replicate_succ]
    cases chunks with
    | nil =>
      rw [maskMatches_nil_of_ne hne]
      exact ⟨fun h => Bool.noConfusion h, fun h => Nat.noConfusion h⟩
    | cons c chunks =>
      rw [maskMatches_cons_of_ne hne, decide_eq_true rfl, Bool.true_or, Bool.true_and, ih]
      exact ⟨congrArg Nat.succ, Nat.succ.inj⟩

def maskAt (one : A) (before : Nat) (a : A) (after : Nat) : List A :=
  List.replicate before one ++ a :: List.replicate after one

lemma maskMatches_maskAt (hne : one ≠ rest) (hone : a ≠ one) (hrest : a ≠ rest) (before after : Nat)
    :
    maskMatches one rest (maskAt one before a after) chunks = true <->
      chunks.length = before + 1 + after ∧ chunks[before]? = some a := by
  induction before generalizing chunks with
  | zero =>
    unfold maskAt
    rw [List.replicate_zero, List.nil_append]
    cases chunks with
    | nil =>
      rw [maskMatches_nil_of_ne hrest]
      constructor
      · intro h
        cases h
      · intro h
        cases h.right
    | cons c chunks =>
      rw [maskMatches_cons_of_ne hrest, decide_eq_false hone, Bool.false_or,
        Bool.and_eq_true_iff, decide_eq_true_iff, maskMatches_ones hne]
      constructor
      · intro h
        refine ⟨?_, congrArg some h.left.symm⟩
        rw [List.length_cons, h.right, Nat.zero_add, Nat.add_comm]
      · intro h
        have hhead : c = a := Option.some.inj h.right
        refine ⟨hhead.symm, ?_⟩
        have hlength := h.left
        rw [List.length_cons, Nat.zero_add, Nat.add_comm 1 after] at hlength
        exact Nat.succ.inj hlength
  | succ before ih =>
    have hcons : maskAt one (before + 1) a after = one :: maskAt one before a after := rfl
    rw [hcons]
    cases chunks with
    | nil =>
      rw [maskMatches_nil_of_ne hne]
      constructor
      · intro h
        cases h
      · intro h
        cases h.right
    | cons c chunks =>
      rw [maskMatches_cons_of_ne hne, decide_eq_true rfl, Bool.true_or, Bool.true_and, ih,
        List.length_cons, List.getElem?_cons_succ]
      constructor
      · intro h
        exact ⟨by omega, h.right⟩
      · intro h
        exact ⟨by omega, h.right⟩

end Matching

/-!
## Lists with chunks that are left out
-/

/-- Two lists that are the same up to some chunks differ at one of these first. -/
theorem exists_left_out_of_ne {drops : A -> Bool} {ys : List A}
    (hsame : xs.filter (fun a => !drops a) = ys.filter (fun a => !drops a))
    (hlength : xs.length = ys.length) (hne : xs ≠ ys) : exists (i : Nat) (a : A), drops a = true ∧
      ((xs[i]? = some a ∧ ys[i]? ≠ some a) ∨ (ys[i]? = some a ∧ xs[i]? ≠ some a)) := by
  induction xs generalizing ys with
  | nil => exact absurd (List.length_eq_zero_iff.mp hlength.symm).symm hne
  | cons x xs ih =>
    cases ys with
    | nil => cases hlength
    | cons y ys =>
      by_cases heq : x = y
      · rw [heq, List.filter_cons, List.filter_cons] at hsame
        have htails : xs.filter (fun a => !drops a) = ys.filter (fun a => !drops a) := by
          split at hsame
          · exact (List.cons.inj hsame).right
          · exact hsame
        have hne' : xs ≠ ys := by
          intro htail
          rw [heq, htail] at hne
          exact hne rfl
        rcases ih htails (Nat.succ.inj hlength) hne' with ⟨i, a, ha, hdiffer⟩
        exact ⟨i + 1, a, ha, hdiffer⟩
      · cases hx : drops x with
        | true => exact ⟨0, x, hx, Or.inl ⟨rfl, fun h => heq (Option.some.inj h).symm⟩⟩
        | false =>
          cases hy : drops y with
          | true => exact ⟨0, y, hy, Or.inr ⟨rfl, fun h => heq (Option.some.inj h)⟩⟩
          | false =>
            rw [List.filter_cons_of_pos (by rw [hx]; rfl),
              List.filter_cons_of_pos (by rw [hy]; rfl)] at hsame
            exact absurd (List.cons.inj hsame).left heq

lemma exists_mask_of_ne [DecidableEq A] {one : A} (hone : one ≠ rest) {drops : A -> Bool}
    (hplain : forall a, drops a = true -> a ≠ one ∧ a ≠ rest)
    (hsame : xs.filter (fun a => !drops a) = ys.filter (fun a => !drops a)) (hne : xs ≠ ys) :
    exists mask, maskMatches one rest mask xs ≠ maskMatches one rest mask ys := by
  by_cases hlength : xs.length = ys.length
  · rcases exists_left_out_of_ne hsame hlength hne with ⟨i, a, ha, hdiffer⟩
    rcases hplain a ha with ⟨haone, harest⟩
    exists maskAt one i a (xs.length - (i + 1))
    intro heq
    rcases hdiffer with hx | hy
    · have hi := (List.getElem?_eq_some_iff.mp hx.left).1
      have hmatch := (maskMatches_maskAt hone haone harest i (xs.length - (i + 1))).mpr
        ⟨by omega, hx.left⟩
      rw [hmatch] at heq
      exact hx.right ((maskMatches_maskAt hone haone harest i _).mp heq.symm).right
    · have hi := (List.getElem?_eq_some_iff.mp hy.left).1
      have hmatch := (maskMatches_maskAt hone haone harest i (xs.length - (i + 1))).mpr
        ⟨by omega, hy.left⟩
      rw [hmatch] at heq
      exact hy.right ((maskMatches_maskAt hone haone harest i _).mp heq).right
  · exists List.replicate xs.length one
    intro heq
    rw [(maskMatches_ones hone).mpr rfl] at heq
    exact hlength ((maskMatches_ones hone).mp heq.symm).symm

end Eva4.Lib
