import Mathlib.Data.List.DropRight

/-!
# Repair of the output file

What `file_handler` does with the file it opens: a last line without a line break is removed, and a
header is written if the cursor is at the start.
-/

namespace Eva4.FileWriter

variable {B : Type} [DecidableEq B] (lf : B) (content : List B)

/-- The loop reads the byte two before the cursor; it gives the content and the cursor. -/
def truncateLastLine : (cursor pos : Nat) -> List B × Nat
  | cursor + 2, pos =>
    if pos < 2 then ([], cursor + 2)
    else if content[cursor]? = some lf then (content.take (cursor + 1), cursor + 1)
    else truncateLastLine (cursor + 1) cursor
  | cursor, _ => ([], cursor)

def truncateIfBroken : List B × Nat :=
  if content = [] then ([], 0)
  else if content.getLast? = some lf then (content, content.length)
  else truncateLastLine lf content content.length content.length

def openFile (header : List B) : List B :=
  if (truncateIfBroken lf content).2 = 0 then (truncateIfBroken lf content).1 ++ header
  else (truncateIfBroken lf content).1

/-- The longest prefix that is empty or ends with a line break. -/
def wholeLines : List B :=
  content.rdropWhile (· != lf)

variable {content}

lemma wholeLines_take (h : content[c]? = some x) : wholeLines lf (content.take (c + 1)) =
    if x = lf then content.take (c + 1) else wholeLines lf (content.take c) := by
  have htake : content.take (c + 1) = content.take c ++ [x] := by
    rw [List.take_add_one, h]
    rfl
  unfold wholeLines
  rw [htake, List.rdropWhile_concat]
  by_cases hx : x = lf <;> simp [hx]

/-- The first byte is never looked at. -/
theorem truncateLastLine_spec (hc : c <= content.length) :
    (truncateLastLine lf content (c + 1) c).1 =
      if (wholeLines lf (content.take c)).length = 1 then []
      else wholeLines lf (content.take c) := by
  induction c with
  | zero => simp [truncateLastLine, wholeLines]
  | succ c ih =>
    have hx := List.getElem?_eq_getElem hc
    have hlength : (content.take (c + 1)).length = c + 1 := List.length_take_of_le hc
    rw [wholeLines_take lf hx]
    cases c with
    | zero =>
      have hstop : (truncateLastLine lf content 2 1).1 = [] := rfl
      rw [hstop]
      by_cases hlf : content[0] = lf
      · rw [if_pos hlf, if_pos hlength]
      · simp [hlf, wholeLines]
    | succ c =>
      have hnext : ¬ c + 1 + 1 < 2 := by omega
      by_cases hlf : content[c + 1] = lf
      · rw [truncateLastLine, if_neg hnext, hx, if_pos (congrArg some hlf), if_pos hlf,
          if_neg (by omega)]
      · rw [truncateLastLine, if_neg hnext, hx, if_neg fun h => hlf (Option.some.inj h),
          if_neg hlf, ← ih (by omega)]

lemma truncateLastLine_cursor : 0 < (truncateLastLine lf content (c + 1) pos).2 := by
  induction c generalizing pos with
  | zero => exact Nat.one_pos
  | succ c ih =>
    unfold truncateLastLine
    split
    · exact Nat.succ_pos _
    · split
      · exact Nat.succ_pos _
      · exact ih

lemma truncateIfBroken_spec : (truncateIfBroken lf content).1 =
    if 2 < content.length ∧ (wholeLines lf content).length = 1 then []
    else wholeLines lf content := by
  by_cases hnil : content = []
  · rw [hnil]
    rfl
  obtain ⟨c, hlength⟩ := Nat.exists_eq_add_one.mpr (List.length_pos_iff.mpr hnil)
  have hx : content[c]? = some content[c] := List.getElem?_eq_getElem _
  have hwhole : wholeLines lf content =
      if content[c] = lf then content else wholeLines lf (content.take c) := by
    have h := wholeLines_take lf hx
    rwa [← hlength, List.take_length] at h
  rw [truncateIfBroken, if_neg hnil, List.getLast?_eq_getElem?, hlength, Nat.add_sub_cancel, hx,
    hwhole]
  by_cases hlf : content[c] = lf
  · rw [if_pos (congrArg some hlf), if_pos hlf, if_neg (by omega)]
  · rw [if_neg fun h => hlf (Option.some.inj h), if_neg hlf]
    -- The first turn has the cursor at `pos`, every other turn one behind it.
    cases c with
    | zero => simp [truncateLastLine, wholeLines]
    | succ c =>
      cases c with
      | zero =>
        have hfirst := List.getElem?_eq_getElem (show 0 < content.length by omega)
        have htake : wholeLines lf (content.take 0) = [] := rfl
        rw [wholeLines_take lf hfirst, htake, if_neg (by omega), truncateLastLine, hfirst]
        by_cases h : content[0] = lf <;> simp [h, truncateLastLine]
      | succ c =>
        have hturn := truncateLastLine_spec lf (show c + 2 <= content.length by omega)
        have hlong : 2 < c + 1 + 1 + 1 := by omega
        rw [truncateLastLine, if_neg (by omega)] at hturn ⊢
        simp only [hlong, true_and]
        exact hturn

/-- The whole lines are left unless the only line break is the first of more than two bytes, and
there is a header if the file was empty or the lines that are left have one. -/
theorem file_repaired_iff (lf : B) (content : List B) :
    ((truncateIfBroken lf content).1 = wholeLines lf content <->
      ¬ (2 < content.length ∧ (wholeLines lf content).length = 1)) ∧
    forall header, header <+: openFile lf content header <-> content = [] ∨ header = [] ∨
      (header <+: wholeLines lf content ∧
        ¬ (2 < content.length ∧ (wholeLines lf content).length = 1)) := by
  constructor
  · rw [truncateIfBroken_spec]
    split
    · next h =>
      have hne : [] ≠ wholeLines lf content := by
        intro heq
        rw [← heq] at h
        cases h.right
      exact iff_of_false hne fun hnot => hnot h
    · next h => exact iff_of_true rfl h
  · intro header
    by_cases hnil : content = []
    · rw [hnil]
      exact iff_of_true List.prefix_rfl (Or.inl rfl)
    · have hcursor : (truncateIfBroken lf content).2 ≠ 0 := by
        rw [truncateIfBroken, if_neg hnil]
        have hpos := List.length_pos_iff.mpr hnil
        split
        · exact Nat.ne_of_gt hpos
        · obtain ⟨c, hc⟩ := Nat.exists_eq_add_one.mpr hpos
          rw [hc]
          exact Nat.ne_of_gt (truncateLastLine_cursor lf)
      rw [openFile, if_neg hcursor, truncateIfBroken_spec]
      split
      · next hfirst => simp [hnil, hfirst]
      · next hfirst =>
        simp only [hnil, hfirst, not_false_eq_true, and_true, false_or]
        exact ⟨Or.inr, fun h => h.elim (fun heq => heq ▸ List.nil_prefix) id⟩

/-- The line break before `ab` is not seen, and a file without line breaks is left without a
header. -/
theorem first_line_removed : (truncateIfBroken 10 [10, 97, 98]).1 = [] ∧
    wholeLines 10 [10, 97, 98] = [10] ∧ openFile 10 [97, 98] [116, 10] = [] := by
  decide

end Eva4.FileWriter
