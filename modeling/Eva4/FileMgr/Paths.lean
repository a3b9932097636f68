import Eva4.Lib.Path
import Eva4.Items.Basic

/-!
# Paths of the file manager

A path is refused by what its text contains, while the file depends on its components.
-/

namespace Eva4.FileMgr

open Lib Path
open Items (Error EResult)

def accessError (message : String) : Error where
  kind := .accessDenied
  message := message

def formatPath (runtimeDir : TextPath) (prot : List TextPath) (s : List Char) : EResult TextPath :=
  if s = ['/'] then .ok runtimeDir
  else if (ofText s).absolute then
    .error (accessError "the path must be relative to the runtime directory")
  else if ['.', '.', '/'] <:+: s then .error (accessError "the path can not contain ../")
  else if ['/', '.', '/'] <:+: s ∨ ['.', '/'] <+: s then
    .error (accessError "the path can not contain or start with ./")
  else if prot.any fun p => (runtimeDir.push (ofText s)).startsWith p then
    .error (accessError "the path is protected")
  else .ok (runtimeDir.push (ofText s))

/-- The path leads into the runtime directory, and into no protected one. -/
def Safe (cwd : List (List Char)) (runtimeDir : TextPath) (prot : List TextPath)
    (path : TextPath) : Prop :=
  Below parent cwd runtimeDir path ∧ forall p, p ∈ prot -> ¬ Below parent cwd p path

/-- Where both paths lead is seen from their components. -/
def Plain (runtimeDir p : TextPath) : Prop :=
  p.absolute = runtimeDir.absolute ∧ parent ∉ p.parts ∧ parent ∉ runtimeDir.parts

/-- Two dots are the last component at most. -/
theorem parts_cases (h : ¬ ['.', '.', '/'] <:+: s) : exists cs, parent ∉ cs ∧
    ((ofText s).parts = cs ∨ (ofText s).parts = cs ++ [parent]) := by
  by_cases hmem : parent ∈ s.splitOn '/'
  · rcases List.eq_append_cons_of_mem hmem with ⟨a, b, hsplit, ha⟩
    have hs := intercalate_append_cons a b parent
    rw [← hsplit, List.intercalate_splitOn] at hs
    cases b with
    | nil =>
      refine ⟨a.filter fun c => c ≠ [] ∧ c ≠ ['.'], fun hc => ha (List.mem_of_mem_filter hc), ?_⟩
      right
      simp only [ofText, hsplit, List.filter_append]
      rfl
    | cons c b =>
      apply absurd _ h
      exact ⟨a.flatMap fun c => c ++ ['/'], c ++ b.flatMap fun c => '/' :: c, by
        rw [hs]
        simp [parent]⟩
  · exact ⟨_, fun hc => hmem (List.mem_of_mem_filter hc), Or.inl rfl⟩

lemma below_runtimeDir (hrel : (ofText s).absolute = false) (hup : ¬ ['.', '.', '/'] <:+: s) :
    Below parent cwd runtimeDir (runtimeDir.push (ofText s)) <->
      ((ofText s).parts = [parent] -> runtimeDir.target parent cwd = []) := by
  rw [Below, target_push hrel]
  rcases parts_cases hup with ⟨cs, hcs, hparts | hparts⟩
  · rw [hparts, walk_of_notMem hcs]
    apply iff_of_true (List.prefix_append _ _)
    intro heq
    rw [heq] at hcs
    exact absurd (List.mem_singleton_self parent) hcs
  · rw [hparts, walk_up hcs]
    cases cs with
    | nil =>
      rw [List.append_nil, List.nil_append]
      constructor
      · intro hprefix _
        have hlength := hprefix.length_le
        rw [List.length_dropLast] at hlength
        exact List.eq_nil_of_length_eq_zero (by omega)
      · intro h
        rw [h rfl]
        exact List.prefix_refl []
    | cons c cs =>
      apply iff_of_true
      · rw [List.dropLast_append_of_ne_nil (List.cons_ne_nil c cs)]
        exact List.prefix_append _ _
      · intro heq
        simp at heq

/-- A protected path that leads to a path by its components is seen in the path. -/
theorem startsWith_of_below (hplain : Plain runtimeDir p) (hrel : (ofText s).absolute = false)
    (hup : ¬ ['.', '.', '/'] <:+: s) (h : Below parent cwd p (runtimeDir.push (ofText s))) :
    (runtimeDir.push (ofText s)).startsWith p := by
  rcases hplain with ⟨habsolute, hp, hdir⟩
  have hpush : runtimeDir.push (ofText s) =
      { runtimeDir with parts := runtimeDir.parts ++ (ofText s).parts } :=
    if_neg (by rw [hrel]; exact Bool.false_ne_true)
  rw [Below, target_push hrel, target, target, habsolute, walk_of_notMem hp,
    walk_of_notMem hdir] at h
  rw [hpush]
  refine ⟨habsolute, ?_⟩
  rcases parts_cases hup with ⟨cs, hcs, hparts | hparts⟩
  · rw [hparts, walk_of_notMem hcs, List.append_assoc, List.prefix_append_right_inj] at h
    rw [hparts]
    exact h
  · rw [hparts, walk_up hcs] at h
    have hbefore := h.trans (List.dropLast_prefix _)
    rw [List.append_assoc, List.prefix_append_right_inj] at hbefore
    rw [hparts, ← List.append_assoc]
    exact hbefore.trans (List.prefix_append _ _)

theorem formatPath_cases (h : formatPath runtimeDir prot s = .ok path) :
    (s = ['/'] ∧ path = runtimeDir) ∨
      (s ≠ ['/'] ∧ path = runtimeDir.push (ofText s) ∧ (ofText s).absolute = false ∧
        ¬ ['.', '.', '/'] <:+: s ∧
        forall p, p ∈ prot -> ¬ (runtimeDir.push (ofText s)).startsWith p) := by
  unfold formatPath at h
  split at h
  · next hroot =>
    cases h
    exact Or.inl ⟨hroot, rfl⟩
  · split at h
    · cases h
    · split at h
      · cases h
      · split at h
        · cases h
        · split at h
          · cases h
          · next hroot hrel hup _ hprot =>
            cases h
            refine Or.inr ⟨hroot, rfl, Bool.eq_false_of_not_eq_true hrel, hup, ?_⟩
            simpa using hprot

/-- An accepted path is safe just if it is not a bare `..` of a directory with a parent, nor the
text `/` of a runtime directory that is protected, and leads into no protected directory whose
components do not show it.  There is none if all protected paths are plain. -/
theorem accepted_path_safe_iff (cwd : List (List Char)) {runtimeDir path : TextPath}
    {prot : List TextPath} {s : List Char} (h : formatPath runtimeDir prot s = .ok path) :
    (Safe cwd runtimeDir prot path <->
      (s = ['/'] -> forall p, p ∈ prot -> ¬ Below parent cwd p runtimeDir) ∧
      ((ofText s).parts = [parent] -> runtimeDir.target parent cwd = []) ∧
      (s ≠ ['/'] -> forall p, p ∈ prot -> ¬ Plain runtimeDir p ->
        ¬ Below parent cwd p (runtimeDir.push (ofText s)))) ∧
    ((forall p, p ∈ prot -> Plain runtimeDir p) ->
      (Safe cwd runtimeDir prot path <->
        (s = ['/'] -> forall p, p ∈ prot -> ¬ Below parent cwd p runtimeDir) ∧
        ((ofText s).parts = [parent] -> runtimeDir.target parent cwd = []))) := by
  rw [and_iff_left_of_imp]
  · rcases formatPath_cases h with ⟨rfl, rfl⟩ | ⟨hroot, rfl, hrel, hup, hprot⟩
    · have hno : (ofText ['/']).parts ≠ [parent] := by decide
      simp [Safe, Below, hno]
    · rw [Safe, below_runtimeDir hrel hup]
      refine ⟨fun hsafe => ⟨fun heq => absurd heq hroot, hsafe.left, fun _ p hp _ =>
        hsafe.right p hp⟩, fun hcond => ⟨hcond.right.left, ?_⟩⟩
      intro p hp hbelow
      by_cases hplain : Plain runtimeDir p
      · exact hprot p hp (startsWith_of_below hplain hrel hup hbelow)
      · exact hcond.right.right hroot p hp hplain hbelow
  · intro hiff hplain
    rw [hiff]
    refine and_congr_right fun _ => and_iff_left fun _ p hp hnot => absurd (hplain p hp) hnot

def sampleDir : TextPath :=
  ofText "/eva/runtime".toList

theorem log_dir_safe : formatPath sampleDir [ofText "/eva/runtime/db".toList] "log".toList =
        .ok (ofText "/eva/runtime/log".toList) ∧
      Safe [] sampleDir [ofText "/eva/runtime/db".toList] (ofText "/eva/runtime/log".toList) := by
  have hpath : formatPath sampleDir [ofText "/eva/runtime/db".toList] "log".toList =
      .ok (ofText "/eva/runtime/log".toList) := by decide
  refine ⟨hpath, ((accepted_path_safe_iff [] hpath).right ?_).mpr ⟨by decide, by decide⟩⟩
  unfold Plain
  decide

/-- Two dots lead to the parent of the runtime directory, and a single slash into a directory that
is protected. -/
theorem parent_dir_accepted :
    formatPath sampleDir [] "..".toList = .ok (ofText "/eva/runtime/..".toList) ∧
      ¬ Safe [] sampleDir [] (ofText "/eva/runtime/..".toList) ∧
      formatPath sampleDir [sampleDir] "/".toList = .ok sampleDir ∧
      ¬ Safe [] sampleDir [sampleDir] sampleDir := by
  unfold Safe
  decide

end Eva4.FileMgr
