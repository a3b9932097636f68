import Mathlib.Data.List.Perm.Subperm

/-!
# Rotation of the output file

The event loop of the file writer (`file_handler`).  Files are kept as whole lines, their operations
succeed, and nobody else moves them, so that an open handle is the one of the current path.
-/

namespace Eva4.FileWriter

/-- The paths of a configuration, with what is known of date templates: whether a path has a
percent sign, the path formatted with a time, and the path with a time appended. -/
structure Paths (Path Time : Type) where
  filePath : Path
  rotatedPath : Option Path
  hasPercent : Path -> Bool
  format : Path -> Time -> Path
  withDate : Path -> Time -> Path

structure Handler (Path Time Line : Type) where
  dt : Time
  filePath : Path
  fx : Bool
  files : List (Path × List Line)

/-- A state comes with the verdict of the cache of written lines. -/
inductive Event (Line : Type) where
  | state (line : Line) (canWrite : Bool)
  | bulkState (lines : List Line)
  | flush
  | rotate

variable {Path Time Line : Type} [DecidableEq Path] (cfg : Paths Path Time) (header : Option Line)

def Paths.generateFilePath (base : Path) (dt : Time) : Path :=
  if cfg.hasPercent base then cfg.format base dt else base

namespace Handler

variable (s : Handler Path Time Line)

def write (lines : List Line) : Handler Path Time Line :=
  { s with files := s.files.map fun f => (f.1, if f.1 = s.filePath then f.2 ++ lines else f.2) }

def opened (now : Time) : Handler Path Time Line :=
  let found := s.files.any fun f => f.1 = s.filePath
  if s.fx && found then s else
    { s with
      fx := true
      dt := now
      files := if found then s.files else s.files ++ [(s.filePath, [])] }

def ready (now : Time) : Handler Path Time Line :=
  if (s.opened now).files.any fun f => f.1 = s.filePath ∧ f.2.isEmpty
  then (s.opened now).write header.toList else s.opened now

/-- Where the file is after its rotation; with a template and no rotated path it stays. -/
def target : Path :=
  match cfg.rotatedPath with
  | some path => cfg.generateFilePath path s.dt
  | none => if cfg.hasPercent cfg.filePath then s.filePath else cfg.withDate s.filePath s.dt

def nextPath : Path :=
  if cfg.rotatedPath.isSome || cfg.hasPercent cfg.filePath
  then cfg.generateFilePath cfg.filePath s.dt else s.filePath

/-- A file that the target names is replaced. -/
def rename (target : Path) : List (Path × List Line) :=
  if target = s.filePath then s.files else
    (s.files.filter fun f => f.1 ≠ target).map fun f =>
      (if f.1 = s.filePath then target else f.1, f.2)

def rotate : Handler Path Time Line :=
  { s with fx := false, filePath := s.nextPath cfg, files := s.rename (s.target cfg) }

def handle (now : Time) : Event Line -> Handler Path Time Line
  | .state line canWrite =>
    if canWrite then (s.ready header now).write [line] else s.ready header now
  | .bulkState lines => (s.ready header now).write lines
  | .flush => s.ready header now
  | .rotate => (s.ready header now).rotate cfg

def run (events : List (Time × Event Line)) : Handler Path Time Line :=
  events.foldl (fun s e => s.handle cfg header e.1 e.2) s

/-!
## Lines that are kept
-/

def lines : List Line :=
  s.files.flatMap Prod.snd

/-- Every line is still in some file. -/
def Kept (s s' : Handler Path Time Line) : Prop :=
  s.lines.Subperm s'.lines

/-- The rotation replaces no file with lines. -/
def Free : Prop :=
  forall f, f ∈ s.files -> f.1 = s.target cfg -> f.1 ≠ s.filePath -> f.2 = []

def AllFree : List (Time × Event Line) -> Handler Path Time Line -> Prop
  | [], _ => True
  | (now, .rotate) :: events, s => (s.ready header now).Free cfg ∧
      AllFree events (s.handle cfg header now .rotate)
  | (now, e) :: events, s => AllFree events (s.handle cfg header now e)

lemma kept_write (lines : List Line) : s.Kept (s.write lines) := by
  apply List.Sublist.subperm
  unfold Handler.lines write
  induction s.files with
  | nil => simp
  | cons f files ih =>
    simp only [List.map_cons, List.flatMap_cons]
    apply List.Sublist.append _ ih
    split
    · exact List.sublist_append_left _ _
    · exact List.Sublist.refl _

lemma lines_opened : (s.opened now).lines = s.lines := by
  simp only [opened]
  split
  · rfl
  · simp only [lines]
    split <;> simp

lemma kept_ready (now : Time) : s.Kept (s.ready header now) := by
  unfold Kept ready
  rw [← s.lines_opened]
  split
  · exact kept_write _ _
  · exact List.Subperm.refl _

def replaced : List Line :=
  if s.target cfg = s.filePath then []
  else (s.files.filter fun f => f.1 = s.target cfg).flatMap Prod.snd

lemma lines_rotate : s.lines.Perm (s.replaced cfg ++ (s.rotate cfg).lines) := by
  unfold lines replaced rotate rename
  split
  · simp
  · have hsplit := List.filter_append_perm (fun f => f.1 = s.target cfg) s.files
    have hlines := hsplit.symm.flatMap_right Prod.snd
    simpa [List.flatMap_append, List.flatMap_map] using hlines

lemma replaced_eq_nil_iff : s.replaced cfg = [] <-> s.Free cfg := by
  unfold replaced Free
  split
  · next heq => simp +contextual [heq]
  · next hne =>
    simp only [List.flatMap_eq_nil_iff, List.mem_filter, decide_eq_true_eq]
    constructor
    · exact fun h f hf htarget _ => h f ⟨hf, htarget⟩
    · exact fun h f hf => h f hf.1 hf.2 fun hpath => hne (hf.2.symm.trans hpath)

lemma kept_rotate_iff : s.Kept (s.rotate cfg) <-> s.Free cfg := by
  have hperm := s.lines_rotate cfg
  rw [← replaced_eq_nil_iff]
  constructor
  · intro hkept
    have hlength := hperm.length_eq
    have hle := hkept.length_le
    rw [List.length_append] at hlength
    exact List.eq_nil_of_length_eq_zero (by omega)
  · intro hnil
    rw [hnil] at hperm
    exact hperm.subperm

/-- In every run whose rotations replace no file with lines, all lines are kept; a rotation that
replaces one loses them. -/
theorem rotation_loses_no_line :
    (forall events, forall s : Handler Path Time Line, AllFree cfg header events s ->
      s.Kept (s.run cfg header events)) ∧
    forall s : Handler Path Time Line, s.Kept (s.rotate cfg) <-> s.Free cfg := by
  refine ⟨fun events => ?_, kept_rotate_iff cfg⟩
  induction events with
  | nil => exact fun s _ => List.Subperm.refl _
  | cons e events ih =>
    rcases e with ⟨now, e⟩
    intro s hfree
    have hready := s.kept_ready header now
    cases e with
    | state line canWrite =>
      apply List.Subperm.trans _ (ih _ hfree)
      cases canWrite with
      | false => exact hready
      | true => exact hready.trans (kept_write _ _)
    | bulkState lines => exact (hready.trans (kept_write _ _)).trans (ih _ hfree)
    | flush => exact hready.trans (ih _ hfree)
    | rotate => exact (hready.trans ((kept_rotate_iff cfg _).mpr hfree.1)).trans (ih _ hfree.2)

/-- Paths are lists of numbers here: a date is appended, and the template 1 gives the hour. -/
def samplePaths (filePath : List Nat) : Paths (List Nat) Nat where
  filePath := filePath
  rotatedPath := none
  hasPercent path := path = [1]
  format _ minutes := [minutes / 60]
  withDate path minutes := path ++ [minutes]

def fiveFile : Handler (List Nat) Nat Nat :=
  ⟨5, [0], true, [([0], [1])]⟩

theorem rotated_twice_kept : fiveFile.Kept (fiveFile.run (samplePaths [0]) none
    [(5, .rotate), (6, .state 2 true), (6, .rotate)]) := by
  apply (rotation_loses_no_line (samplePaths [0]) none).1
  refine ⟨?_, ?_, trivial⟩
  · unfold Free
    decide
  · unfold Free
    decide

/-- Two rotations within the precision of the date give one name: the first line is gone. -/
theorem rotated_twice_loses : ¬ fiveFile.Kept (fiveFile.run (samplePaths [0]) none
    [(5, .rotate), (5, .state 2 true), (5, .rotate)]) := by
  intro hkept
  have hmem : 1 ∈ [2] := hkept.subset List.mem_cons_self
  exact absurd hmem (by decide)

/-!
## Files that are left
-/

def content (path : Path) : Option (List Line) :=
  (s.files.find? fun f => f.1 = path).map Prod.snd

def Writes : Event Line -> Prop
  | .state _ canWrite => canWrite = true
  | .bulkState lines => lines ≠ []
  | _ => False

/-- No line is appended to the file at a path, as long as no rotation replaces it. -/
def LeavesAlone (path : Path) : List (Time × Event Line) -> Handler Path Time Line -> Prop
  | [], _ => True
  | (now, e) :: events, s => (e = .rotate ∧ (s.ready header now).target cfg = path) ∨
      ((s.handle cfg header now e).content path = s.content path ∧
        LeavesAlone path events (s.handle cfg header now e))

/-- The template still gives the name of the file, and there is no rotated path. -/
def Excepted (now : Time) : Prop :=
  cfg.rotatedPath = none ∧ cfg.generateFilePath cfg.filePath now = s.filePath

/-- After a rotation no line is appended to the old file, wherever it is now. -/
def StartsNewFile (now : Time) (events : List (Time × Event Line)) : Prop :=
  s.Excepted cfg now ∨ LeavesAlone cfg header ((s.ready header now).target cfg) events
    (s.handle cfg header now .rotate)

def Avoids (path : Path) : List (Time × Event Line) -> Handler Path Time Line -> Prop
  | [], _ => True
  | (now, e) :: events, s => (e = .rotate -> (s.ready header now).nextPath cfg ≠ path) ∧
      Avoids path events (s.handle cfg header now e)

lemma content_write (path : Path) (lines : List Line) : (s.write lines).content path =
      (s.content path).map fun old => if path = s.filePath then old ++ lines else old := by
  unfold content write
  induction s.files with
  | nil => rfl
  | cons f files ih =>
    by_cases hf : f.1 = path
    · simp [hf]
    · simpa [hf] using ih

lemma content_opened (path : Path) : (s.opened now).content path =
      if path = s.filePath then some ((s.content path).getD []) else s.content path := by
  have hfound : (s.files.any fun f => f.1 = s.filePath) = (s.content s.filePath).isSome := by
    rw [content, Option.isSome_map, List.isSome_find?]
  unfold opened
  rw [hfound]
  by_cases hpath : path = s.filePath
  · rw [if_pos hpath, hpath]
    cases hcontent : s.content s.filePath with
    | some old =>
      dsimp only
      split
      · exact hcontent
      · exact hcontent
    | none =>
      have hnone := Option.map_eq_none_iff.mp hcontent
      simp [content, List.find?_append, hnone]
  · rw [if_neg hpath]
    dsimp only
    split
    · rfl
    · split
      · rfl
      · simp [content, List.find?_append, Ne.symm hpath]

theorem content_ready (now : Time) : exists more, (s.ready header now).content s.filePath =
      some ((s.content s.filePath).getD [] ++ more) := by
  have hopened : (s.opened now).content s.filePath = some ((s.content s.filePath).getD []) := by
    rw [content_opened, if_pos rfl]
  unfold ready
  split
  · rw [content_write, hopened]
    split
    · exact ⟨_, rfl⟩
    · exact ⟨[], by rw [List.append_nil]; rfl⟩
  · exact ⟨[], by rw [List.append_nil]; exact hopened⟩

lemma filePath_opened : (s.opened now).filePath = s.filePath := by
  simp only [opened]
  split <;> rfl

lemma filePath_ready : (s.ready header now).filePath = s.filePath := by
  unfold ready
  split <;> exact s.filePath_opened

lemma filePath_handle (now : Time) (e : Event Line) (he : e ≠ .rotate) :
    (s.handle cfg header now e).filePath = s.filePath := by
  rw [← s.filePath_ready header]
  cases e with
  | state line canWrite => cases canWrite <;> rfl
  | rotate => exact absurd rfl he
  | _ => rfl

section

variable {s} {path : Path} (hpath : s.filePath ≠ path)
include hpath

lemma content_write_other (lines : List Line) : (s.write lines).content path = s.content path := by
  rw [content_write]
  simp [hpath.symm]

lemma content_ready_other (now : Time) : (s.ready header now).content path = s.content path := by
  have hopened : (s.opened now).content path = s.content path := by
    rw [content_opened, if_neg hpath.symm]
  unfold ready
  split
  · rw [content_write_other (by rw [filePath_opened]; exact hpath), hopened]
  · exact hopened

lemma content_rotate_other (htarget : s.target cfg ≠ path) :
    (s.rotate cfg).content path = s.content path := by
  unfold rotate rename content
  split
  · rfl
  · induction s.files with
    | nil => rfl
    | cons f files ih =>
      by_cases hfpath : f.1 = path
      · simp [hfpath, htarget.symm, hpath.symm]
      · by_cases hf : f.1 = s.target cfg
        · simpa [hf, htarget] using ih
        · by_cases hfile : f.1 = s.filePath <;> simpa [hf, hfile, hfpath, htarget, hpath] using ih

lemma leavesAlone_of_avoids (havoids : Avoids cfg header path events s) :
    LeavesAlone cfg header path events s := by
  induction events generalizing s with
  | nil => trivial
  | cons e events ih =>
    rcases e with ⟨now, e⟩
    have hready := content_ready_other header hpath now
    have hreadyPath : (s.ready header now).filePath ≠ path := by
      rw [filePath_ready]
      exact hpath
    by_cases he : e = .rotate
    · rw [he] at havoids ⊢
      by_cases htarget : (s.ready header now).target cfg = path
      · exact Or.inl ⟨rfl, htarget⟩
      · right
        refine ⟨?_, ih (havoids.1 rfl) havoids.2⟩
        exact (content_rotate_other cfg hreadyPath htarget).trans hready
    · right
      refine ⟨?_, ih ?_ havoids.2⟩
      · cases e with
        | state line canWrite =>
          cases canWrite with
          | false => exact hready
          | true => exact (content_write_other hreadyPath _).trans hready
        | bulkState lines => exact (content_write_other hreadyPath _).trans hready
        | flush => exact hready
        | rotate => exact absurd rfl he
      · rw [filePath_handle cfg header s now e he]
        exact hpath

end

lemma content_grows (hwrites : Writes e) :
    (s.handle cfg header now e).content s.filePath ≠ s.content s.filePath := by
  have hgrows : forall lines, lines ≠ [] ->
      ((s.ready header now).write lines).content s.filePath ≠ s.content s.filePath := by
    intro lines hlines
    rcases s.content_ready header now with ⟨more, hready⟩
    rw [content_write, hready, filePath_ready, Option.map_some, if_pos rfl]
    cases s.content s.filePath with
    | none => exact nofun
    | some old =>
      intro heq
      have hlength := congrArg List.length (Option.some.inj heq)
      have hpos := List.length_pos_iff.mpr hlines
      simp only [Option.getD_some, List.length_append] at hlength
      omega
  cases e with
  | state line canWrite =>
    cases hwrites
    exact hgrows [line] (List.cons_ne_nil line [])
  | bulkState lines => exact hgrows lines hwrites
  | flush | rotate => cases hwrites

lemma not_leavesAlone (hnone : forall e, e ∈ events -> e.2 ≠ .rotate)
    (hwrites : exists e, e ∈ events ∧ Writes e.2) :
    ¬ LeavesAlone cfg header s.filePath events s := by
  induction events generalizing s with
  | nil => simp at hwrites
  | cons e events ih =>
    have he := hnone e List.mem_cons_self
    rintro (hrotate | ⟨hsame, hlater⟩)
    · exact he hrotate.1
    · rw [List.exists_mem_cons_iff] at hwrites
      rcases hwrites with hfirst | hrest
      · exact s.content_grows cfg header hfirst hsame
      · rw [← s.filePath_handle cfg header e.1 e.2 he] at hlater
        exact ih _ (fun e he => hnone e (List.mem_cons_of_mem _ he)) hrest hlater

lemma avoids_of_none (hnone : forall e, e ∈ events -> e.2 ≠ .rotate) :
    Avoids cfg header path events s := by
  induction events generalizing s with
  | nil => trivial
  | cons e events ih =>
    refine ⟨fun he => absurd he (hnone e List.mem_cons_self), ih _ ?_⟩
    exact fun e he => hnone e (List.mem_cons_of_mem _ he)

def tenFile : Handler (List Nat) Nat Nat :=
  run (samplePaths [1]) none ⟨600, [10], false, []⟩ [(605, .state 1 true)]

end Handler
end Eva4.FileWriter
