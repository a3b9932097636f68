import Eva4.Hmi.Catalogs

/-!
# Served files

A request names a file below a base directory.  The test for two dots is made on the decoded text,
and the path is built from the text itself.
-/

namespace Eva4.Hmi

open Lib Path

lemma dots_mem_pathChunks : ".." ∈ pathChunks s <-> parent ∈ s.toList.splitOn '/' :=
  List.mem_map_of_injective fun _ _ => String.ofList_injective

lemma pathChunks_slash : pathChunks (a ++ "/" ++ b) = pathChunks a ++ pathChunks b := by
  unfold pathChunks
  rw [String.toList_append, String.toList_append, List.append_assoc, ← List.map_append]
  exact congrArg _ (List.splitOn_append_cons_self ..)

/-- An escape is a percent sign with two hexadecimal digits: what is between two slashes is decoded
by itself, and two dots are no escape. -/
structure Decodes (urlDecode : String -> Option String) : Prop where
  chunk : forall s decoded c d, urlDecode s = some decoded -> c ∈ pathChunks s ->
    urlDecode c = some d -> '/' ∉ d.toList -> d ∈ pathChunks decoded
  dots : urlDecode ".." = some ".."

variable {urlDecode : String -> Option String} (h : Decodes urlDecode)
include h

lemma Decodes.keepsDots : KeepsDots urlDecode := by
  intro s decoded hdecode hmem
  rw [← dots_mem_pathChunks] at hmem ⊢
  exact h.chunk s decoded ".." ".." hdecode hmem h.dots (by decide)

lemma no_dots (hs : pathContainsTraversal urlDecode s = false) : ".." ∉ pathChunks s := by
  rw [dots_mem_pathChunks]
  intro hmem
  rw [traversal_of_parent h.keepsDots hmem] at hs
  cases hs

lemma serveFile_no_dots (hserve : serveFile urlDecode uri base path = .ok filePath) :
    ".." ∉ pathChunks path := by
  unfold serveFile at hserve
  split at hserve
  · cases hserve
  · next htests =>
    rw [Bool.not_eq_true, Bool.or_eq_false_iff] at htests
    exact no_dots h htests.right

omit h

/-!
## What is opened
-/

inductive Metadata where
  | dir
  | file
  | notFound
  | failed

structure Files where
  metadata : String -> Metadata
  has : String -> Bool

/-- The file of a path that is there; a directory without a slash is redirected. -/
def targetFile (files : Files) (allowDefault : Bool) (filePath : String) : Metadata -> Option String
  | .dir =>
    if endsWith filePath "/" then
      if allowDefault then
        some (filePath ++ if files.has (filePath ++ "index.j2") then "index.j2" else "index.html")
      else some filePath
    else none
  | .file => some filePath
  | _ => none

/-- The path that is opened or rendered, if any.  The embedded files of the UI come before the
base. -/
def readFile (files : Files) (uiDefault : String -> Bool) (notFoundToBase allowDefault : Bool)
    (base path : String) : Option String :=
  match files.metadata (base ++ "/" ++ path) with
  | .notFound =>
    if uiDefault path then none
    else if notFoundToBase then
      targetFile files allowDefault (base ++ "/" ++ "") (files.metadata (base ++ "/" ++ ""))
    else none
  | attr => targetFile files allowDefault (base ++ "/" ++ path) attr

def BelowBase (base file : String) : Prop :=
  exists path, file = base ++ "/" ++ path ∧ ".." ∉ pathChunks path

lemma slash_at_end (h : endsWith (base ++ "/" ++ path) "/" = true) :
    path = "" ∨ exists dir, path = dir ++ "/" ++ "" := by
  rcases List.eq_nil_or_concat' path.toList with hnil | ⟨dir, c, hlast⟩
  · exact Or.inl (String.toList_injective hnil)
  · right
    simp only [endsWith, String.toList_append, hlast, List.isSuffixOf_iff_suffix] at h
    rcases h with ⟨init, hinit⟩
    rw [← List.append_assoc] at hinit
    have hc : ['/'] = [c] := List.append_inj_right' hinit rfl
    refine ⟨String.ofList dir, String.toList_injective ?_⟩
    simp [hlast, ← hc]

lemma targetFile_below (h : ".." ∉ pathChunks path)
    (hfile : targetFile files allowDefault (base ++ "/" ++ path) attr = some file) :
    BelowBase base file := by
  unfold targetFile at hfile
  split at hfile
  · split at hfile
    · next hend =>
      split at hfile
      · cases hfile
        generalize hname : (if files.has (base ++ "/" ++ path ++ "index.j2") then "index.j2"
          else "index.html") = name
        have hplain : ".." ∉ pathChunks name := by
          rw [← hname]
          split <;> decide
        refine ⟨path ++ name, String.append_assoc .., ?_⟩
        rcases slash_at_end hend with rfl | ⟨dir, rfl⟩
        · rw [String.empty_append]
          exact hplain
        · rw [pathChunks_slash, List.mem_append, not_or] at h
          rw [String.append_empty, pathChunks_slash, List.mem_append, not_or]
          exact ⟨h.left, hplain⟩
      · cases hfile
        exact ⟨path, rfl, h⟩
    · cases hfile
  · cases hfile
    exact ⟨path, rfl, h⟩
  · cases hfile

lemma readFile_below (h : ".." ∉ pathChunks path)
    (hread : readFile files uiDefault notFoundToBase allowDefault base path = some file) :
    BelowBase base file := by
  unfold readFile at hread
  split at hread
  · split at hread
    · cases hread
    · split at hread
      · exact targetFile_below (by decide) hread
      · cases hread
  · exact targetFile_below h hread

/-- What a request opens is below the base directory. -/
theorem served_below_base {urlDecode : String -> Option String} (h : Decodes urlDecode) :
    (forall pvtPath userPath acl op s path,
      formatAndCheckPath urlDecode pvtPath userPath acl op s = .ok path ->
        pvtPath = some path.base ∧ ".." ∉ path.components) ∧
    (forall files uiDefault notFoundToBase allowDefault uri base path filePath file,
      serveFile urlDecode uri base path = .ok filePath ->
      readFile files uiDefault notFoundToBase allowDefault base path = some file ->
        BelowBase base file) ∧
    forall files pvtPath auth uri pvtFile filePath,
      servePvt urlDecode pvtPath auth uri pvtFile = .ok filePath ->
        exists base, pvtPath = some base ∧ forall file,
          readFile files (fun _ => false) false false base pvtFile = some file ->
            BelowBase base file := by
  refine ⟨?_, ?_, ?_⟩
  · intro pvtPath userPath acl op s path hpath
    rcases formatAndCheckPath_ok hpath with ⟨hbase, ⟨_, hroot⟩ | ⟨hplain, hcomponents⟩⟩
    · rw [hroot]
      exact ⟨hbase, List.not_mem_nil⟩
    · rw [hcomponents]
      refine ⟨hbase, fun hmem => no_dots h hplain ?_⟩
      have hfile : ".." ∈ fileComponents s := by
        rw [fileComponents_eq]
        exact List.mem_filter.mpr ⟨hmem, rfl⟩
      exact List.mem_of_mem_filter hfile
  · intro files uiDefault notFoundToBase allowDefault uri base path filePath file hserve hread
    exact readFile_below (serveFile_no_dots h hserve) hread
  · intro files pvtPath auth uri pvtFile filePath hserve
    unfold servePvt at hserve
    split at hserve
    · cases hserve
    · split at hserve
      · cases hserve
      · split at hserve
        · split at hserve
          · exact ⟨_, rfl, fun file hread => readFile_below (serveFile_no_dots h hserve) hread⟩
          · cases hserve
        · cases hserve

theorem index_below_ui : BelowBase "ui" "ui/a/index.html" := by
  have hdecodes : Decodes plainText := by
    refine ⟨?_, rfl⟩
    intro s decoded c d hdecode hc hd _
    cases hdecode
    cases hd
    exact hc
  exact (served_below_base hdecodes).right.left ⟨fun _ => .dir, fun _ => false⟩ (fun _ => false)
    false true "/ui/a/" "ui" "a/" _ _ rfl rfl

end Eva4.Hmi
