import Mathlib.Data.List.Infix
import Eva4.Lib.Dialog
import Eva4.Hmi.Acl

/-!
# Paths of private files

The API methods and the HTTP handler check a requested path in different ways.  Both ask the ACL
about the text of the request, while the file that is opened depends on the components of the path
only.  How percent encoded characters are decoded is a parameter.
-/

namespace Eva4.Hmi

open Lib
open Items

/-!
## Texts
-/

def contains (s part : String) : Bool :=
  decide (part.toList <:+: s.toList)

def startsWith (s part : String) : Bool :=
  part.toList.isPrefixOf s.toList

def endsWith (s part : String) : Bool :=
  part.toList.isSuffixOf s.toList

variable (urlDecode : String -> Option String)

def pathContainsTraversal (path : String) : Bool :=
  match urlDecode path with
  | none => true
  | some decoded =>
    contains decoded "/../" || endsWith decoded "/.." || startsWith decoded "../" ||
      decoded == ".."

/-!
## Files
-/

def isNoComponent (chunk : String) : Bool :=
  chunk == "" || chunk == "."

/-- The components that say which file below the directory a path names. -/
def fileComponents (path : String) : List String :=
  (pathChunks path).filter fun chunk => !isNoComponent chunk

def SameFile (s t : String) : Prop :=
  fileComponents s = fileComponents t
deriving Decidable

structure PathBuf where
  base : String
  components : List String
deriving DecidableEq

/-- The components of a relative path; a dot stays at the start only. -/
def components (path : String) : List String :=
  match pathChunks path with
  | [] => []
  | first :: others =>
    (if first = "" then [] else [first]) ++ others.filter fun chunk => !isNoComponent chunk

/-!
## The API methods
-/

inductive PvtOp where
  | list
  | read
  | write
deriving DecidableEq

def userPvtPath (userDirs user : Option String) : Option String := do
  let userDirs <- userDirs
  let user <- user
  some (userDirs ++ "/" ++ user)

variable (userPath : Option String)

def inUserDir (s : String) : Bool :=
  match userPath with
  | none => false
  | some userPath => s == userPath || startsWith s (userPath ++ "/")

def checkPvtRead (userPath : Option String) (acl : Acl) (s : String) : Bool :=
  inUserDir userPath s || acl.checkPvtRead s

def checkPvtWrite (userPath : Option String) (acl : Acl) (s : String) : Bool :=
  inUserDir userPath s || acl.checkPvtWrite s

def accessError (message : String) : Error where
  kind := .accessDenied
  message := message

def requirePvtRead (acl : Acl) (s : String) : EResult Unit :=
  if checkPvtRead userPath acl s then .ok ()
  else .error (accessError ("read access reqired for " ++ s))

def requirePvtWrite (acl : Acl) (s : String) : EResult Unit :=
  if checkPvtWrite userPath acl s then .ok ()
  else .error (accessError ("write access reqired for " ++ s))

def requirePvt (acl : Acl) (op : PvtOp) (s : String) : EResult Unit :=
  match op with
  | .read => requirePvtRead userPath acl s
  | .write => requirePvtWrite userPath acl s
  | .list => .ok ()

def formatAndCheckPath (pvtPath userPath : Option String)
    (acl : Acl) (op : PvtOp) (s : String) : EResult PathBuf :=
  match pvtPath with
  | none => .error { kind := .unsupported, message := "PVT path not set" }
  | some pvtPath =>
    if s = "/" then do
      requirePvt userPath acl op ""
      .ok { base := pvtPath, components := [] }
    else if startsWith s "/" then
      .error (accessError "the path must be relative to the pvt directory")
    else if pathContainsTraversal urlDecode s then
      .error (accessError "the path can not contain or start with traversal chars")
    else do
      requirePvt userPath acl op s
      .ok { base := pvtPath, components := components s }

/-!
## The HTTP handler
-/

def serveFile (uri base path : String) : EResult String :=
  if pathContainsTraversal urlDecode uri || pathContainsTraversal urlDecode path then
    .error { kind := .failed, message := "Path traversal is not allowed" }
  else .ok (base ++ "/" ++ path)

def servePvt (pvtPath : Option String) (auth : Option Acl)
    (uri pvtFile : String) : EResult String :=
  if contains pvtFile "/../" || contains pvtFile "/." || startsWith pvtFile "../" then
    .error (accessError pvtFile)
  else if pvtFile = "" then .error (accessError pvtFile)
  else
    match pvtPath, auth with
    | some pvtPath, some acl =>
      if acl.checkPvtRead pvtFile then serveFile urlDecode uri pvtPath pvtFile
      else .error (accessError pvtFile)
    | _, _ => .error (accessError pvtFile)

/-!
## What is opened
-/

lemma fileComponents_eq :
    fileComponents path = (components path).filter fun chunk => !isNoComponent chunk := by
  unfold fileComponents components
  cases pathChunks path with
  | nil => rfl
  | cons first others =>
    rw [List.filter_append, List.filter_filter]
    by_cases hempty : first = ""
    · rw [if_pos hempty, hempty, List.filter_cons_of_neg (by decide)]
      simp
    · rw [if_neg hempty, List.filter_cons]
      cases hfirst : isNoComponent first <;> simp [hfirst]

lemma fileComponents_root : fileComponents "/" = [] := by
  decide

section

variable {userPath} {urlDecode}
variable (h : formatAndCheckPath urlDecode pvtPath userPath acl op s = .ok path)
include h

theorem formatAndCheckPath_ok : pvtPath = some path.base ∧ ((s = "/" ∧ path.components = []) ∨
    (pathContainsTraversal urlDecode s = false ∧ path.components = components s)) := by
  unfold formatAndCheckPath at h
  split at h
  · cases h
  · split at h
    · next hroot =>
      rcases exists_of_bind_ok h with ⟨_, _, h⟩
      cases h
      exact ⟨rfl, Or.inl ⟨hroot, rfl⟩⟩
    · split at h
      · cases h
      · split at h
        · cases h
        · next hplain =>
          rcases exists_of_bind_ok h with ⟨_, _, h⟩
          cases h
          exact ⟨rfl, Or.inr ⟨Bool.not_eq_true _ ▸ hplain, rfl⟩⟩

/-- The file that a method opens is the one the request names. -/
theorem formatAndCheckPath_file :
    path.components.filter (fun chunk => !isNoComponent chunk) = fileComponents s := by
  rcases (formatAndCheckPath_ok h).right with ⟨hroot, hpath⟩ | ⟨_, hpath⟩
  · rw [hpath, hroot]
    exact fileComponents_root.symm
  · rw [hpath]
    exact fileComponents_eq.symm

end

/-!
## Decisions
-/

/-- The path is not refused before the ACL is asked. -/
def apiGate (s : String) : Bool :=
  s == "/" || !startsWith s "/" && !pathContainsTraversal urlDecode s

def checkedPath (s : String) : String :=
  if s = "/" then "" else s

def checkPvt (acl : Acl) (op : PvtOp) (s : String) : Bool :=
  match op with
  | .read => checkPvtRead userPath acl s
  | .write => checkPvtWrite userPath acl s
  | .list => true

lemma requirePvt_isOk : (requirePvt userPath acl op s).isOk = checkPvt userPath acl op s := by
  cases op with
  | list => rfl
  | read =>
    unfold requirePvt requirePvtRead checkPvt
    cases checkPvtRead userPath acl s <;> rfl
  | write =>
    unfold requirePvt requirePvtWrite checkPvt
    cases checkPvtWrite userPath acl s <;> rfl

lemma isOk_bind_ok : (x >>= fun _ => (.ok b : EResult B)).isOk = x.isOk := by
  cases x <;> rfl

lemma formatAndCheckPath_isOk :
    (formatAndCheckPath urlDecode (some base) userPath acl op s).isOk =
      (apiGate urlDecode s && checkPvt userPath acl op (checkedPath s)) := by
  unfold formatAndCheckPath apiGate checkedPath
  by_cases hroot : s = "/"
  · simp only [hroot, if_true, isOk_bind_ok, requirePvt_isOk]
    rfl
  · have hbeq : (s == "/") = false := beq_eq_false_iff_ne.mpr hroot
    simp only [hroot, if_false, hbeq, Bool.false_or]
    cases startsWith s "/" with
    | true => rfl
    | false =>
      cases pathContainsTraversal urlDecode s with
      | true => rfl
      | false =>
        simp only [Bool.false_eq_true, if_false, isOk_bind_ok, requirePvt_isOk]
        rfl

def httpGate (uri s : String) : Bool :=
  !(contains s "/../" || contains s "/." || startsWith s "../") && s != "" &&
    !(pathContainsTraversal urlDecode uri || pathContainsTraversal urlDecode s)

lemma servePvt_isOk : (servePvt urlDecode (some base) (some acl) uri s).isOk =
      (httpGate urlDecode uri s && acl.checkPvtRead s) := by
  unfold servePvt serveFile httpGate
  cases contains s "/../" || contains s "/." || startsWith s "../" with
  | true => rfl
  | false =>
    by_cases hempty : s = ""
    · rw [if_pos hempty, hempty]
      rfl
    · have hbne : (s != "") = true := bne_iff_ne.mpr hempty
      simp only [Bool.false_eq_true, if_false, if_neg hempty, hbne]
      cases acl.checkPvtRead s with
      | false => simp only [Bool.and_false]; rfl
      | true =>
        cases pathContainsTraversal urlDecode uri ||
          pathContainsTraversal urlDecode s <;> rfl

/-!
## Two texts for one file
-/

lemma isNoComponent_plain (h : isNoComponent chunk = true) : chunk ≠ "+" ∧ chunk ≠ "#" := by
  rcases Bool.or_eq_true_iff.mp h with hempty | hdot
  · rw [eq_of_beq hempty]
    decide
  · rw [eq_of_beq hdot]
    decide

theorem exists_acl_of_ne (hsame : SameFile s t) (hne : s ≠ t) :
    exists acl : Acl, acl.checkPvtRead s ≠ acl.checkPvtRead t := by
  have hchunks : pathChunks s ≠ pathChunks t := fun h => hne (chunks_injective h)
  rcases exists_mask_of_ne (show "+" ≠ "#" by decide) (fun chunk => isNoComponent_plain) hsame
    hchunks with ⟨mask, hmask⟩
  exists .ofPvt (.allBut ⟨mask⟩) (.allBut ⟨mask⟩)
  intro heq
  have hallows : (AccessList.allBut ⟨mask⟩).allows s = (AccessList.allBut ⟨mask⟩).allows t := heq
  rw [AccessList.allBut_allows, AccessList.allBut_allows] at hallows
  exact hmask (Bool.not_inj hallows)

lemma gated_eq_iff {p q : X -> Bool} (hall : exists x, p x = true ∧ q x = true) :
    (forall x, (gate && p x) = (gate' && q x)) <->
      gate = gate' ∧ (gate = true -> forall x, p x = q x) := by
  constructor
  · intro h
    rcases hall with ⟨x, hp, hq⟩
    have hgates : gate = gate' := by
      have hx := h x
      rw [hp, hq, Bool.and_true, Bool.and_true] at hx
      exact hx
    refine ⟨hgates, ?_⟩
    intro hopen y
    have hy := h y
    rw [← hgates, hopen, Bool.true_and, Bool.true_and] at hy
    exact hy
  · intro h x
    rw [← h.left]
    cases hopen : gate with
    | false => rfl
    | true => rw [h.right hopen x]

def allowAll : Acl :=
  { Acl.ofPvt ⟨[], []⟩ ⟨[], []⟩ with admin := true }

/-- Both texts are in the directory of the user, or they are the same text outside of it. -/
def SameCheck (s t : String) : Prop :=
  (inUserDir userPath s = true ∧ inUserDir userPath t = true) ∨
    (inUserDir userPath s = false ∧ inUserDir userPath t = false ∧ s = t)

variable {userPath} in
lemma checkPvt_eq_of_sameCheck (h : SameCheck userPath s t) :
    checkPvt userPath acl op s = checkPvt userPath acl op t := by
  rcases h with hdir | hout
  · cases op with
    | list => rfl
    | read => simp only [checkPvt, checkPvtRead, hdir.left, hdir.right, Bool.true_or]
    | write => simp only [checkPvt, checkPvtWrite, hdir.left, hdir.right, Bool.true_or]
  · rw [hout.right.right]

variable {userPath} in
lemma checkPvt_eq_iff (hsame : SameFile s t) :
    (forall x : Acl × PvtOp, checkPvt userPath x.1 x.2 s = checkPvt userPath x.1 x.2 t) <->
      SameCheck userPath s t := by
  constructor
  · intro h
    have hread : forall acl : Acl, (inUserDir userPath s || acl.checkPvtRead s) =
        (inUserDir userPath t || acl.checkPvtRead t) := fun acl => h (acl, .read)
    have hnone := hread (.ofPvt ⟨[], []⟩ ⟨[], []⟩)
    have hdirs : inUserDir userPath s = inUserDir userPath t := by
      simpa [Acl.checkPvtRead, Acl.ofPvt, AccessList.allows] using hnone
    cases hs : inUserDir userPath s with
    | true => exact Or.inl ⟨hs, by rw [← hdirs, hs]⟩
    | false =>
      right
      refine ⟨hs, by rw [← hdirs, hs], ?_⟩
      apply Classical.byContradiction
      intro hne
      rcases exists_acl_of_ne hsame hne with ⟨acl, hacl⟩
      have hcheck := hread acl
      rw [← hdirs, hs, Bool.false_or, Bool.false_or] at hcheck
      exact hacl hcheck
  · intro h x
    exact checkPvt_eq_of_sameCheck h

lemma fileComponents_checkedPath : fileComponents (checkedPath s) = fileComponents s := by
  unfold checkedPath
  split
  · next hroot =>
    rw [hroot]
    decide
  · rfl

/-- Both texts are refused before the ACL is asked, or it is asked about the same text. -/
def ApiAgree (s t : String) : Prop :=
  apiGate urlDecode s = apiGate urlDecode t ∧
    (apiGate urlDecode s = true -> SameCheck userPath (checkedPath s) (checkedPath t))

def HttpAgree (uri s uri' t : String) : Prop :=
  httpGate urlDecode uri s = httpGate urlDecode uri' t ∧ (httpGate urlDecode uri s = true -> s = t)

/-- Two requests for one file get the same decision from every ACL, just if both are refused
before it or ask it about the same text. -/
theorem same_file_same_decision_iff (urlDecode : String -> Option String) (base : String)
    (userPath : Option String) {s t : String} (hsame : SameFile s t) (uri uri' : String) :
    ((forall acl op, (formatAndCheckPath urlDecode (some base) userPath acl op s).isOk =
        (formatAndCheckPath urlDecode (some base) userPath acl op t).isOk) <->
      ApiAgree urlDecode userPath s t) ∧
    ((forall acl, (servePvt urlDecode (some base) (some acl) uri s).isOk =
        (servePvt urlDecode (some base) (some acl) uri' t).isOk) <->
      HttpAgree urlDecode uri s uri' t) := by
  constructor
  · have hchecked : SameFile (checkedPath s) (checkedPath t) := by
      unfold SameFile
      rw [fileComponents_checkedPath, fileComponents_checkedPath]
      exact hsame
    unfold ApiAgree
    rw [← checkPvt_eq_iff hchecked, ← gated_eq_iff ⟨(allowAll, .list), rfl, rfl⟩]
    constructor
    · intro h x
      rw [← formatAndCheckPath_isOk urlDecode, ← formatAndCheckPath_isOk urlDecode]
      exact h x.1 x.2
    · intro h acl op
      rw [formatAndCheckPath_isOk, formatAndCheckPath_isOk]
      exact h (acl, op)
  · have htexts : s = t <-> forall acl : Acl, acl.checkPvtRead s = acl.checkPvtRead t := by
      constructor
      · intro heq acl
        rw [heq]
      · intro h
        apply Classical.byContradiction
        intro hne
        rcases exists_acl_of_ne hsame hne with ⟨acl, hacl⟩
        exact hacl (h acl)
    unfold HttpAgree
    rw [htexts, ← gated_eq_iff ⟨allowAll, rfl, rfl⟩]
    constructor
    · intro h acl
      rw [← servePvt_isOk urlDecode, ← servePvt_isOk urlDecode]
      exact h acl
    · intro h acl
      rw [servePvt_isOk, servePvt_isOk]
      exact h acl

def plainText (path : String) : Option String :=
  some path

/-- The ACL does not matter for a file in the user's own directory. -/
theorem own_file_decided_alike : SameFile "bob/a" "bob//a" ∧
      (forall acl op, (formatAndCheckPath plainText (some "pvt") (some "bob") acl op "bob/a").isOk =
        (formatAndCheckPath plainText (some "pvt") (some "bob") acl op "bob//a").isOk) ∧
      apiGate plainText "bob/a" = true := by
  have hsame : SameFile "bob/a" "bob//a" := by decide
  have hiff := same_file_same_decision_iff plainText "pvt" (some "bob") hsame "/pvt" "/pvt"
  refine ⟨hsame, hiff.left.mpr ⟨by decide, fun _ => Or.inl ?_⟩, by decide⟩
  decide

/-- A file that the ACL denies is read and written under another text. -/
theorem denied_file_opened :
    exists acl : Acl, acl.pvtRead.deny = [⟨["a", "b"]⟩] ∧ acl.pvtWrite.deny = [⟨["a", "b"]⟩] ∧
      SameFile "a/b" "a//b" ∧
      formatAndCheckPath plainText (some "pvt") none acl .read "a/b" =
        .error (accessError "read access reqired for a/b") ∧
      formatAndCheckPath plainText (some "pvt") none acl .read "a//b" =
        .ok { base := "pvt", components := ["a", "b"] } ∧
      formatAndCheckPath plainText (some "pvt") none acl .write "a/b" =
        .error (accessError "write access reqired for a/b") ∧
      formatAndCheckPath plainText (some "pvt") none acl .write "a//b" =
        .ok { base := "pvt", components := ["a", "b"] } ∧
      servePvt plainText (some "pvt") (some acl) "/pvt/a/b" "a/b" = .error (accessError "a/b") ∧
      servePvt plainText (some "pvt") (some acl) "/pvt/a//b" "a//b" = .ok "pvt/a//b" := by
  refine ⟨.ofPvt (.allBut ⟨["a", "b"]⟩) (.allBut ⟨["a", "b"]⟩), ?_⟩
  decide

end Eva4.Hmi
