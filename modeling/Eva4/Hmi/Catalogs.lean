import Eva4.Lib.Path
import Eva4.Hmi.PvtPath

/-!
# Catalogues of translations

The path of a catalogue is joined from a locale directory, the language of the request and the
path of its URI; while there is no such file, catalogues of the directories above are tried.
-/

namespace Eva4.Hmi

open Lib Path

/-- A dot at the start of a name does not begin an extension. -/
def fileStem (name : List Char) : List Char :=
  match name.reverse.dropWhile fun c => c ≠ '.' with
  | _ :: c :: cs => (c :: cs).reverse
  | _ => name

def withExtension (p : TextPath) (ext : List Char) : TextPath :=
  match p.parts.getLast? with
  | none => p
  | some name =>
    if name = parent then p
    else { p with parts := p.parts.dropLast ++ [fileStem name ++ '.' :: ext] }

def langPath (lang : String) : TextPath :=
  ofText (lang.toList ++ "/LC_MESSAGES".toList)

/-- The components of a URI after the first two; a slash or a dot at the start is one. -/
def uriPath (uri : String) : List (List Char) :=
  let first := if uri.toList.head? = some '/' ∨ (uri.toList.splitOn '/').head? = some ['.']
    then 1 else 0
  (ofText uri.toList).parts.drop (2 - first)

/-- The paths that are tried after the first one; `n` components of the URI are left. -/
def climb : Nat -> TextPath -> List TextPath
  | 0, mo => [mo.pop.push ⟨false, ["messages.mo".toList]⟩]
  | n + 1, mo =>
    let mo := mo.pop.push ⟨false, ["messages.mo".toList]⟩
    mo :: climb n mo.pop

def candidates (d : TextPath) (u : List (List Char)) (lang : String) : List TextPath :=
  let mo := withExtension ((d.push (langPath lang)).push ⟨false, u⟩) "mo".toList
  mo :: climb (u.length - 1) mo

def upTo (isFile : TextPath -> Bool) : List TextPath -> List TextPath
  | [] => []
  | path :: rest => if isFile path then [path] else path :: upTo isFile rest

/-- The paths that `convert` tries, the last of which is loaded if it is a file. -/
def tried (isFile : TextPath -> Bool) (dirs : List TextPath) (uri lang : String) : List TextPath :=
  upTo isFile (dirs.flatMap fun d => candidates d (uriPath uri) lang)

/-- Two dots between slashes are there after a text is decoded. -/
def KeepsDots (urlDecode : String -> Option String) : Prop :=
  forall s decoded, urlDecode s = some decoded -> parent ∈ s.toList.splitOn '/' ->
    parent ∈ decoded.toList.splitOn '/'

lemma traversal_of_parent {urlDecode : String -> Option String} (hkeeps : KeepsDots urlDecode)
    (h : parent ∈ uri.toList.splitOn '/') : pathContainsTraversal urlDecode uri = true := by
  unfold pathContainsTraversal
  cases hdecode : urlDecode uri with
  | none => rfl
  | some decoded =>
    rcases text_of_chunk (hkeeps uri decoded hdecode h) with ⟨a, b, _, htext⟩
    simp only [Bool.or_eq_true, contains, startsWith, endsWith, decide_eq_true_iff,
      List.isPrefixOf_iff_prefix, List.isSuffixOf_iff_suffix]
    rcases List.eq_nil_or_concat a with ha | ⟨a, c, ha⟩
    · cases b with
      | nil =>
        right
        rw [beq_iff_eq, ← String.toList_inj, htext, ha]
        rfl
      | cons d b =>
        left
        right
        rw [htext, ha]
        exact ⟨d ++ b.flatMap fun c => '/' :: c, by simp [parent]⟩
    · cases b with
      | nil =>
        left
        left
        right
        rw [htext, ha]
        exact ⟨(a.flatMap fun c => c ++ ['/']) ++ c, by simp [parent]⟩
      | cons d b =>
        left
        left
        left
        rw [htext, ha]
        exact ⟨(a.flatMap fun c => c ++ ['/']) ++ c, d ++ b.flatMap fun c => '/' :: c, by
          simp [parent]⟩

lemma parent_notMem_uriPath {urlDecode : String -> Option String} (hkeeps : KeepsDots urlDecode)
    (huri : pathContainsTraversal urlDecode uri = false) : parent ∉ uriPath uri := by
  intro hmem
  have hchunk := List.mem_of_mem_filter (List.mem_of_mem_drop hmem)
  rw [traversal_of_parent hkeeps hchunk] at huri
  cases huri

lemma pop_push (d : TextPath) (absolute : Bool) (cs : List (List Char)) (c : List Char) :
    (d.push ⟨absolute, cs ++ [c]⟩).pop = d.push ⟨absolute, cs⟩ := by
  cases absolute <;> simp [push, pop, ← List.append_assoc]

lemma push_push (d p : TextPath) (cs : List (List Char)) :
    (d.push p).push ⟨false, cs⟩ = d.push ⟨p.absolute, p.parts ++ cs⟩ := by
  cases hp : p.absolute <;> simp [push, hp]

lemma exists_last (lang : String) (hu : parent ∉ u) : exists cs name,
    (langPath lang).parts ++ u = cs ++ [name] ∧ name ≠ parent := by
  rcases List.eq_nil_or_concat u with hnil | ⟨cs, name, hconcat⟩
  · refine ⟨(ofText lang.toList).parts, "LC_MESSAGES".toList, ?_, by decide⟩
    have hsplit := List.splitOn_append_cons_self (a := '/') lang.toList "LC_MESSAGES".toList
    rw [hnil, List.append_nil]
    exact (congrArg _ hsplit).trans (List.filter_append _ _)
  · rw [List.concat_eq_append] at hconcat
    refine ⟨(langPath lang).parts ++ cs, name, by rw [hconcat, List.append_assoc], ?_⟩
    intro heq
    apply hu
    rw [hconcat, heq]
    exact List.mem_append_right cs (List.mem_singleton_self parent)

lemma withExtension_push (d : TextPath) (h : p.parts = cs ++ [name]) (hname : name ≠ parent)
    (ext : List Char) : withExtension (d.push p) ext =
      d.push ⟨p.absolute, cs ++ [fileStem name ++ '.' :: ext]⟩ := by
  cases hp : p.absolute <;> simp [withExtension, push, hp, h, hname, ← List.append_assoc]

lemma mem_climb {d : TextPath} {absolute : Bool} (hn : n ≤ cs.length)
    (h : c ∈ climb n (d.push ⟨absolute, cs ++ [name]⟩)) :
    exists ds, ds <+: cs ∧ c = d.push ⟨absolute, ds ++ ["messages.mo".toList]⟩ := by
  induction n generalizing cs name with
  | zero =>
    rw [climb, pop_push, push_push, List.mem_singleton] at h
    exact ⟨cs, List.prefix_refl cs, h⟩
  | succ n ih =>
    simp only [climb, pop_push, push_push, List.mem_cons] at h
    rcases h with heq | hrest
    · exact ⟨cs, List.prefix_refl cs, heq⟩
    · rcases List.eq_nil_or_concat cs with hnil | ⟨before, last, hconcat⟩
      · rw [hnil] at hn
        exact absurd hn (Nat.not_succ_le_zero n)
      · rw [List.concat_eq_append] at hconcat
        rw [hconcat] at hn hrest ⊢
        rcases ih (by simpa using hn) hrest with ⟨ds, hds, hc⟩
        exact ⟨ds, hds.trans (List.prefix_append before [last]), hc⟩

lemma mem_candidates {d : TextPath} {lang : String} (hu : parent ∉ u)
    (h : c ∈ candidates d u lang) : exists cs name, cs <+: (langPath lang).parts ++ u ∧
      name ≠ parent ∧ c = d.push ⟨(langPath lang).absolute, cs ++ [name]⟩ := by
  rcases exists_last lang hu with ⟨cs, last, hcs, hlast⟩
  have hmo := withExtension_push d (p := ⟨(langPath lang).absolute, (langPath lang).parts ++ u⟩) hcs
    hlast "mo".toList
  have hext : fileStem last ++ '.' :: "mo".toList ≠ parent := by
    intro heq
    have hlength := congrArg List.length heq
    rw [List.length_append] at hlength
    exact absurd (Nat.le_of_add_left_le (Nat.le_of_eq hlength)) (by decide)
  rw [candidates, push_push, hmo, List.mem_cons] at h
  rcases h with heq | hclimb
  · exact ⟨cs, _, hcs ▸ List.prefix_append cs [last], hext, heq⟩
  · have hlength := congrArg List.length hcs
    simp only [List.length_append, List.length_singleton] at hlength
    have hn : u.length - 1 ≤ cs.length := by omega
    rcases mem_climb hn hclimb with ⟨ds, hds, hc⟩
    exact ⟨ds, _, hds.trans (hcs ▸ List.prefix_append cs [last]), by decide, hc⟩

lemma mem_upTo (h : c ∈ upTo isFile paths) : c ∈ paths := by
  induction paths with
  | nil => exact h
  | cons path rest ih =>
    unfold upTo at h
    split at h
    · exact List.mem_cons.mpr (Or.inl (List.mem_singleton.mp h))
    · rcases List.mem_cons.mp h with heq | hrest
      · exact List.mem_cons.mpr (Or.inl heq)
      · exact List.mem_cons_of_mem path (ih hrest)

theorem tried_below_locales_iff {urlDecode : String -> Option String} (hkeeps : KeepsDots urlDecode)
    {uri : String} (huri : pathContainsTraversal urlDecode uri = false) (lang : String) :
    (forall isFile cwd dirs path, path ∈ tried isFile dirs uri lang ->
      exists d, d ∈ dirs ∧ Below parent cwd d path) <->
        (langPath lang).absolute = false ∧ Stays parent 0 (langPath lang).parts := by
  have hu := parent_notMem_uriPath hkeeps huri
  constructor
  · intro h
    rcases exists_last lang hu with ⟨cs, name, hcs, hname⟩
    have hfirst : forall cwd d, Below parent cwd d (d.push
        ⟨(langPath lang).absolute, cs ++ [fileStem name ++ '.' :: "mo".toList]⟩) := by
      intro cwd d
      rcases h (fun _ => false) cwd [d] _ List.mem_cons_self with ⟨d', hd, hbelow⟩
      rw [List.mem_singleton.mp hd, push_push, withExtension_push _ hcs hname] at hbelow
      exact hbelow
    rcases below_push_iff.mp hfirst with ⟨hrelative, hstays⟩
    refine ⟨hrelative, ?_⟩
    have hall : Stays parent 0 (cs ++ [name]) :=
      hstays.append_left.append fun hmem => hname (List.mem_singleton.mp hmem).symm
    rw [← hcs] at hall
    exact hall.append_left
  · intro h isFile cwd dirs path hpath
    rcases List.mem_flatMap.mp (mem_upTo hpath) with ⟨d, hd, hc⟩
    rcases mem_candidates hu hc with ⟨cs, name, ⟨ds, hds⟩, hname, heq⟩
    refine ⟨d, hd, ?_⟩
    rw [heq, h.left]
    have hall : Stays parent 0 (cs ++ ds) := hds ▸ h.right.append hu
    exact below_push rfl
      (hall.append_left.append fun hmem => hname (List.mem_singleton.mp hmem).symm) cwd

theorem english_below_locales : exists d, d ∈ [ofText "/pvt/locales".toList] ∧
    Below parent [] d (ofText "/pvt/locales/en/LC_MESSAGES/a/b.mo".toList) := by
  have hkeeps : KeepsDots plainText := by
    intro s decoded heq hmem
    cases heq
    exact hmem
  have huri : pathContainsTraversal plainText "/ui/a/b.json" = false := by decide
  apply (tried_below_locales_iff hkeeps huri "en").mpr (by decide) fun _ => true
  exact List.mem_cons_self

/-- An empty language makes the path absolute, and one with two dots leads out of the locales. -/
theorem catalog_outside_locales :
    tried (fun _ => true) [ofText "/pvt/locales".toList] "/ui/b.json" "" =
        [ofText "/LC_MESSAGES/b.mo".toList] ∧
      ¬ Below parent [] (ofText "/pvt/locales".toList) (ofText "/LC_MESSAGES/b.mo".toList) ∧
      tried (fun _ => true) [ofText "/pvt/locales".toList] "/ui/b.json" "../.." =
        [ofText "/pvt/locales/../../LC_MESSAGES/b.mo".toList] ∧
      ¬ Below parent [] (ofText "/pvt/locales".toList)
        (ofText "/pvt/locales/../../LC_MESSAGES/b.mo".toList) := by
  decide

end Eva4.Hmi
