import Eva4.Lib.Path

/-!
# Files of the mirror

The path of a request is pushed onto the directory of the mirror as it comes.
-/

namespace Eva4.Mirror

open Lib Path

/-- The path that is handed to `static_file`; a request with another method is refused, as is one
whose path does not start with a slash. -/
def handler (isDir : TextPath -> Bool) (mirror : TextPath) (get : Bool)
    (uri : List Char) : Option TextPath :=
  match get, uri with
  | true, '/' :: filePath =>
    let path := mirror.push (.ofText filePath)
    some (if isDir path then path.push (.ofText "index.html".toList) else path)
  | _, _ => none

/-- What follows the first slash is a relative path that never goes up from where it starts. -/
def Inside (uri : List Char) : Prop :=
  forall filePath, uri = '/' :: filePath ->
    (ofText filePath).absolute = false ∧ Stays parent 0 (ofText filePath).parts

/-- A request gets a file of every mirror, whatever its directories are, just if its path stays
inside. -/
theorem served_below_mirror_iff (uri : List Char) :
    (forall isDir cwd mirror get path, handler isDir mirror get uri = some path ->
      Below parent cwd mirror path) <-> Inside uri := by
  constructor
  · intro h filePath huri
    rw [← below_push_iff]
    intro cwd mirror
    apply h (fun _ => false) cwd mirror true
    rw [huri]
    rfl
  · intro h isDir cwd mirror get path hpath
    unfold handler at hpath
    split at hpath
    · next filePath =>
      have hinside := h filePath rfl
      have hbelow := below_push (p := mirror) hinside.left hinside.right cwd
      cases hpath
      split
      · exact hbelow.trans (below_push rfl (by decide) _)
      · exact hbelow
    · cases hpath

/-- A doubled slash makes the path absolute, and two dots lead out of the mirror. -/
theorem system_file_served :
    handler (fun _ => false) (.ofText "/mirror".toList) true "//etc/passwd".toList =
        some (.ofText "/etc/passwd".toList) ∧
      ¬ Below parent [] (.ofText "/mirror".toList) (.ofText "/etc/passwd".toList) ∧
      handler (fun _ => false) (.ofText "/mirror".toList) true "/../etc".toList =
        some (.ofText "/mirror/../etc".toList) ∧
      ¬ Below parent [] (.ofText "/mirror".toList) (.ofText "/mirror/../etc".toList) := by
  decide

end Eva4.Mirror
