import Mathlib.Data.Fintype.EquivFin
import Mathlib.Data.List.Infix

/-!
# Paths

A path is a list of components, one of which stands for the parent directory.  Where it leads is
found by walking through the components; nothing is known of the files.
-/

namespace Eva4.Lib

structure Path (C : Type) where
  absolute : Bool
  parts : List C
deriving DecidableEq

namespace Path

variable {C : Type}

/-- An absolute path replaces the path it is pushed onto. -/
def push (p q : Path C) : Path C :=
  if q.absolute then q else { p with parts := p.parts ++ q.parts }

def pop (p : Path C) : Path C :=
  { p with parts := p.parts.dropLast }

variable [DecidableEq C] (up : C)

def enter (dir : List C) (c : C) : List C :=
  if c = up then dir.dropLast else dir ++ [c]

def walk (dir cs : List C) : List C :=
  cs.foldl (enter up) dir

def target (cwd : List C) (p : Path C) : List C :=
  walk up (if p.absolute then [] else cwd) p.parts

/-- The path leads to the directory or to something below it. -/
def Below (cwd : List C) (dir p : Path C) : Prop :=
  dir.target up cwd <+: p.target up cwd
deriving Decidable

/-- The components never go up from a directory `n` levels above the start. -/
def Stays : Nat -> List C -> Prop
  | _, [] => True
  | n, c :: cs => if c = up then 0 < n ∧ Stays (n - 1) cs else Stays (n + 1) cs

instance Stays.decidable (n : Nat) (cs : List C) : Decidable (Stays up n cs) := by
  induction cs generalizing n with
  | nil => exact .isTrue trivial
  | cons c cs ih =>
    unfold Stays
    infer_instance

variable {up}

lemma Stays.append_left (h : Stays up n (cs ++ ds)) : Stays up n cs := by
  induction cs generalizing n with
  | nil => trivial
  | cons c cs ih =>
    simp only [List.cons_append, Stays] at h ⊢
    split at h
    · next hup => rw [if_pos hup]; exact ⟨h.left, ih h.right⟩
    · next hup => rw [if_neg hup]; exact ih h

lemma stays_of_notMem (h : up ∉ cs) (n : Nat) : Stays up n cs := by
  induction cs generalizing n with
  | nil => trivial
  | cons c cs ih =>
    rw [List.mem_cons, not_or] at h
    rw [Stays, if_neg (Ne.symm h.left)]
    exact ih h.right _

lemma Stays.append (h : Stays up n cs) (hds : up ∉ ds) : Stays up n (cs ++ ds) := by
  induction cs generalizing n with
  | nil => exact stays_of_notMem hds n
  | cons c cs ih =>
    simp only [List.cons_append, Stays] at h ⊢
    split at h
    · next hup => rw [if_pos hup]; exact ⟨h.left, ih h.right⟩
    · next hup => rw [if_neg hup]; exact ih h

lemma Stays.prefix_walk (h : Stays up n cs) (hlen : below.length = n) :
    dir <+: walk up (dir ++ below) cs := by
  induction cs generalizing n below with
  | nil => exact List.prefix_append dir below
  | cons c cs ih =>
    rw [Stays] at h
    rw [walk, List.foldl_cons, enter]
    by_cases hup : c = up
    · rw [if_pos hup] at h ⊢
      rw [List.dropLast_append_of_ne_nil (List.ne_nil_of_length_pos (hlen ▸ h.left))]
      exact ih h.right (by rw [List.length_dropLast, hlen])
    · rw [if_neg hup] at h ⊢
      rw [List.append_assoc]
      exact ih h (by rw [List.length_append, hlen, List.length_singleton])

lemma notMem_walk (hdir : x ∉ dir) (hcs : x ∉ cs) : x ∉ walk up dir cs := by
  induction cs generalizing dir with
  | nil => exact hdir
  | cons c cs ih =>
    rw [List.mem_cons, not_or] at hcs
    apply ih _ hcs.right
    unfold enter
    split
    · exact fun hmem => hdir (List.mem_of_mem_dropLast hmem)
    · simp [hdir, hcs.left]

theorem stays_of_mem_walk (hx : x ∉ cs) (hbelow : x ∉ below) (h : x ∈ walk up (x :: below) cs) :
    Stays up below.length cs := by
  induction cs generalizing below with
  | nil => trivial
  | cons c cs ih =>
    rw [List.mem_cons, not_or] at hx
    rw [walk, List.foldl_cons, enter] at h
    rw [Stays]
    by_cases hup : c = up
    · rw [if_pos hup] at h ⊢
      cases below with
      | nil => exact absurd h (notMem_walk List.not_mem_nil hx.right)
      | cons b bs =>
        refine ⟨Nat.succ_pos _, ?_⟩
        have hrest : x ∉ (b :: bs).dropLast := fun hmem => hbelow (List.mem_of_mem_dropLast hmem)
        simpa using ih hx.right hrest h
    · rw [if_neg hup] at h ⊢
      have hrest : x ∉ below ++ [c] := by simp [hbelow, hx.left]
      simpa using ih hx.right hrest h

lemma target_push {p : Path C} (h : q.absolute = false) :
    (p.push q).target up cwd = walk up (p.target up cwd) q.parts := by
  simp [push, target, h, walk]

lemma below_push {p : Path C} (h : q.absolute = false) (hq : Stays up 0 q.parts) (cwd : List C) :
    Below up cwd p (p.push q) := by
  have hprefix : p.target up cwd <+: walk up (p.target up cwd ++ []) q.parts :=
    hq.prefix_walk rfl
  rw [Below, target_push h]
  rwa [List.append_nil] at hprefix

theorem below_push_iff [Infinite C] {q : Path C} :
    (forall cwd dir, Below up cwd dir (dir.push q)) <->
      q.absolute = false ∧ Stays up 0 q.parts := by
  constructor
  · intro h
    rcases Infinite.exists_notMem_finset (up :: q.parts).toFinset with ⟨x, hx⟩
    rw [List.mem_toFinset, List.mem_cons, not_or] at hx
    have hmem : x ∈ (Path.push ⟨true, [x]⟩ q).target up [] := by
      apply (h [] ⟨true, [x]⟩).subset
      simp [target, walk, enter, hx.left]
    have hrelative : q.absolute = false := by
      rw [← Bool.not_eq_true]
      intro habsolute
      rw [push, if_pos habsolute, target, if_pos habsolute] at hmem
      exact notMem_walk List.not_mem_nil hx.right hmem
    refine ⟨hrelative, ?_⟩
    rw [target_push hrelative] at hmem
    exact stays_of_mem_walk hx.right List.not_mem_nil
      (by simpa [target, walk, enter, hx.left] using hmem)
  · intro h cwd dir
    exact below_push h.left h.right cwd

lemma walk_of_notMem (h : up ∉ cs) : walk up dir cs = dir ++ cs := by
  induction cs generalizing dir with
  | nil => exact (List.append_nil dir).symm
  | cons c cs ih =>
    rw [List.mem_cons, not_or] at h
    have hrest : walk up (enter up dir c) cs = enter up dir c ++ cs := ih h.right
    rw [enter, if_neg (Ne.symm h.left), List.append_assoc] at hrest
    rw [walk, List.foldl_cons, enter, if_neg (Ne.symm h.left)]
    exact hrest

lemma walk_up (h : up ∉ cs) : walk up dir (cs ++ [up]) = (dir ++ cs).dropLast := by
  rw [← walk_of_notMem h, walk, List.foldl_append]
  exact if_pos rfl

def startsWith (p q : Path C) : Prop :=
  q.absolute = p.absolute ∧ q.parts <+: p.parts

instance (p q : Path C) : Decidable (p.startsWith q) :=
  inferInstanceAs (Decidable (_ ∧ _))

/-!
## Texts
-/

abbrev TextPath : Type :=
  Path (List Char)

def parent : List Char :=
  ['.', '.']

/-- Empty components and single dots name nothing. -/
def ofText (s : List Char) : TextPath where
  absolute := s.head? = some '/'
  parts := (s.splitOn '/').filter fun c => c ≠ [] ∧ c ≠ ['.']

theorem intercalate_append_cons (a b : List (List Char)) (x : List Char) :
    ['/'].intercalate (a ++ x :: b) =
      (a.flatMap fun c => c ++ ['/']) ++ (x ++ b.flatMap fun c => '/' :: c) := by
  induction a with
  | nil =>
    induction b generalizing x with
    | nil => simp
    | cons y b ih =>
      rw [List.nil_append, List.intercalate_cons_cons]
      simpa using ih y
  | cons y a ih =>
    rw [List.cons_append, List.intercalate_cons_of_ne_nil (by simp), ih]
    simp

lemma text_of_chunk {s x : List Char} (h : x ∈ s.splitOn '/') :
    exists a b, s.splitOn '/' = a ++ x :: b ∧
      s = (a.flatMap fun c => c ++ ['/']) ++ (x ++ b.flatMap fun c => '/' :: c) := by
  rcases List.append_of_mem h with ⟨a, b, hsplit⟩
  refine ⟨a, b, hsplit, ?_⟩
  rw [← intercalate_append_cons, ← hsplit, List.intercalate_splitOn]

end Path
end Eva4.Lib
