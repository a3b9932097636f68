import Eva4.Items.Tree

/-!
# The representation invariant of item trees

A well-formed tree keeps every item at the end of the path its id spells, caches
at every node exactly the items stored strictly below it, and has no empty child.
Insertion and removal keep the invariant and change what is stored under one OID.
-/

namespace Eva4.Items

open Lib

variable {V : Type}

namespace ItemTree

/-- A well-formed tree of one kind whose root stands at the end of a path. -/
inductive WellFormed (kind : ItemKind) : List String -> ItemTree V -> Prop where
  | intro {pre : List String} {cs : List (Sigma fun _ : String => ItemTree V)}
      {ms ws : Table OID (Item V)} :
      cs.NodupKeys ->
      (forall chunk c, List.dlookup chunk cs = some c -> WellFormed kind (pre ++ [chunk]) c) ->
      (forall chunk c, List.dlookup chunk cs = some c -> c.isEmpty = false) ->
      (forall oid item, AList.lookup oid ms = some item ->
        item.oid = oid ∧ oid.kind = kind ∧ oid.chunks = pre) ->
      (forall oid item, AList.lookup oid ws = some item <->
        exists chunk c path, List.dlookup chunk cs = some c ∧ c.Stores path oid item) ->
      WellFormed kind pre (node cs ms ws)

lemma empty_wellFormed : WellFormed kind pre (empty : ItemTree V) := by
  apply WellFormed.intro
  · exact List.nodupKeys_nil
  · intro chunk c hc
    cases hc
  · intro chunk c hc
    cases hc
  · intro oid item h
    cases h
  · intro oid item
    constructor
    · intro h
      cases h
    · intro h
      rcases h with ⟨chunk, c, path, hc, _⟩
      cases hc

variable {path : List String} {chunk : String} {oid : OID}
  {cs : List (Sigma fun _ : String => ItemTree V)} {item : Item V}

section

variable {kind : ItemKind} {pre : List String} {tree : ItemTree V}
  (hwf : WellFormed kind pre tree)
include hwf

lemma WellFormed.of_stores (h : tree.Stores path oid item) :
    item.oid = oid ∧ oid.kind = kind ∧ oid.chunks = pre ++ path := by
  induction path generalizing pre tree with
  | nil =>
    rcases hwf with ⟨_, _, _, hms, _⟩
    rw [List.append_nil]
    exact hms oid item (stores_nil.mp h)
  | cons chunk rest ih =>
    rcases hwf with ⟨_, hcs, _, _, _⟩
    rcases stores_cons.mp h with ⟨c, hc, hstores⟩
    have hrest := ih (hcs chunk c hc) hstores
    rw [List.append_assoc] at hrest
    exact hrest

lemma WellFormed.subtree (h : tree.subtree path = some n) : WellFormed kind (pre ++ path) n := by
  induction path generalizing pre tree with
  | nil =>
    injection h with h
    rw [← h, List.append_nil]
    exact hwf
  | cons chunk rest ih =>
    rcases hwf with @⟨_, cs, _, _, _, hcs, _, _, _⟩
    rw [ItemTree.subtree] at h
    cases hc : List.dlookup chunk cs with
    | none =>
      rw [hc] at h
      cases h
    | some c =>
      rw [hc] at h
      have hrest := ih (hcs chunk c hc) h
      rw [List.append_assoc] at hrest
      exact hrest

lemma WellFormed.membersWildcard (oid : OID) :
    AList.lookup oid tree.membersWildcard = some item <->
      exists path, path ≠ [] ∧ tree.Stores path oid item := by
  rcases hwf with ⟨_, _, _, _, hws⟩
  constructor
  · intro h
    rcases (hws oid item).mp h with ⟨chunk, c, path, hc, hstores⟩
    exact ⟨chunk :: path, List.cons_ne_nil chunk path, stores_cons.mpr ⟨c, hc, hstores⟩⟩
  · intro h
    rcases h with ⟨path, hne, hstores⟩
    cases path with
    | nil => exact absurd rfl hne
    | cons chunk rest =>
      rcases stores_cons.mp hstores with ⟨c, hc, hrest⟩
      exact (hws oid item).mpr ⟨chunk, c, rest, hc, hrest⟩

lemma WellFormed.nodupKeys : tree.childs.NodupKeys := by
  cases hwf with
  | intro hnodup _ _ _ _ => exact hnodup

lemma WellFormed.child (hc : List.dlookup chunk tree.childs = some c) :
    WellFormed kind (pre ++ [chunk]) c := by
  cases hwf with
  | intro _ hcs _ _ _ => exact hcs chunk c hc

lemma WellFormed.path_eq (hchunks : oid.chunks = pre ++ path) (h : tree.Stores path' oid item) :
    path' = path := by
  have hspec := hwf.of_stores h
  exact List.append_cancel_left (hspec.right.right.symm.trans hchunks)

/-!
## Lookup
-/

lemma WellFormed.getItemRec (hkind : oid.kind = kind) (hchunks : oid.chunks = pre ++ path) :
    getItemRec tree path = some item <-> tree.Stores path oid item := by
  induction path generalizing pre tree with
  | nil =>
    rcases hwf with @⟨_, cs, ms, ws, _, _, _, hms, _⟩
    rw [stores_nil, Items.getItemRec]
    rw [List.append_nil] at hchunks
    -- every key of the members is the one OID that belongs here
    have hkey : forall o i, AList.lookup o ms = some i -> o = oid := by
      intro o i hlookup
      have hspec := hms o i hlookup
      exact OID.eq_of_chunks (hspec.right.left.trans hkind.symm)
        (hspec.right.right.trans hchunks.symm)
    cases hentries : ms.entries with
    | nil =>
      have hnone := Table.entries_eq_nil_iff.mp hentries oid
      rw [hnone]
      simp
    | cons s rest =>
      have hs : AList.lookup s.1 ms = some s.2 :=
        (mem_iff_dlookup ms.nodupKeys s).mp (by rw [hentries]; exact List.mem_cons_self)
      rw [← hkey s.1 s.2 hs, hs]
      simp
  | cons chunk rest ih =>
    rcases hwf with @⟨_, cs, ms, ws, _, hcs, _, _, _⟩
    rw [stores_cons, Items.getItemRec]
    cases hc : List.dlookup chunk cs with
    | none => simp
    | some c =>
      have hrest : oid.chunks = (pre ++ [chunk]) ++ rest := by
        rw [hchunks, List.append_assoc]
        rfl
      have hih := ih (hcs chunk c hc) hrest
      simpa using hih

end

/-!
## Replacing and dropping a child

Both mutations rebuild one child and adjust the cache of the node above it.  The
new cache has to hold what the new child and the untouched children store.
-/

/-- The item is stored below one of the children, the named one excepted. -/
def StoredBeside (cs : List (Sigma fun _ : String => ItemTree V)) (chunk : String)
    (oid : OID) (item : Item V) : Prop :=
  exists other c path, other ≠ chunk ∧ List.dlookup other cs = some c ∧ c.Stores path oid item

section

variable {kind : ItemKind} {pre : List String} {ms ws : Table OID (Item V)}
  (hwf : WellFormed kind pre (node cs ms ws))
include hwf

theorem WellFormed.changeChild (hcs' : cs'.NodupKeys)
    (hlookup : forall other, List.dlookup other cs' =
      if other = chunk then new else List.dlookup other cs)
    (hnew : forall c, new = some c -> WellFormed kind (pre ++ [chunk]) c ∧ c.isEmpty = false)
    (hws' : forall oid item, AList.lookup oid ws' = some item <->
      (exists c path, new = some c ∧ c.Stores path oid item) ∨ StoredBeside cs chunk oid item) :
    WellFormed kind pre (node cs' ms ws') := by
  rcases hwf with ⟨_, hcs, hcsne, hms, _⟩
  have hchild : forall other c, List.dlookup other cs' = some c ->
      WellFormed kind (pre ++ [other]) c ∧ c.isEmpty = false := by
    intro other c hc
    rw [hlookup] at hc
    split at hc
    · next hother =>
      rw [hother]
      exact hnew c hc
    · exact ⟨hcs other c hc, hcsne other c hc⟩
  apply WellFormed.intro hcs'
  · exact fun other c hc => (hchild other c hc).left
  · exact fun other c hc => (hchild other c hc).right
  · exact hms
  · intro oid item
    rw [hws' oid item]
    constructor
    · intro h
      rcases h with hnew | hbeside
      · rcases hnew with ⟨c, path, hc, hstores⟩
        exact ⟨chunk, c, path, (hlookup chunk).trans ((if_pos rfl).trans hc), hstores⟩
      · rcases hbeside with ⟨other, c, path, hother, hc, hstores⟩
        exact ⟨other, c, path, (hlookup other).trans ((if_neg hother).trans hc), hstores⟩
    · intro h
      rcases h with ⟨other, c, path, hc, hstores⟩
      rw [hlookup] at hc
      by_cases hother : other = chunk
      · rw [if_pos hother] at hc
        exact Or.inl ⟨c, path, hc, hstores⟩
      · rw [if_neg hother] at hc
        exact Or.inr ⟨other, c, path, hother, hc, hstores⟩

theorem WellFormed.not_storedBeside (hchunks : oid.chunks = pre ++ chunk :: path) (item : Item V) :
    ¬ StoredBeside cs chunk oid item := by
  intro h
  rcases h with ⟨other, c, rest, hother, hc, hstores⟩
  have hpath := hwf.path_eq hchunks (stores_cons.mpr ⟨c, hc, hstores⟩)
  injection hpath with hhead _
  exact hother hhead

theorem WellFormed.cache_iff (chunk : String) : AList.lookup oid ws = some item <->
      (exists path, (node cs ms ws).Stores (chunk :: path) oid item) ∨
        StoredBeside cs chunk oid item := by
  rcases hwf with ⟨_, _, _, _, hws⟩
  rw [hws oid item]
  constructor
  · intro h
    rcases h with ⟨other, c, path, hc, hstores⟩
    by_cases hother : other = chunk
    · rw [hother] at hc
      exact Or.inl ⟨path, stores_cons.mpr ⟨c, hc, hstores⟩⟩
    · exact Or.inr ⟨other, c, path, hother, hc, hstores⟩
  · intro h
    rcases h with hhere | hbeside
    · rcases hhere with ⟨path, hstores⟩
      rcases stores_cons.mp hstores with ⟨c, hc, hrest⟩
      exact ⟨chunk, c, path, hc, hrest⟩
    · rcases hbeside with ⟨other, c, path, _, hc, hstores⟩
      exact ⟨other, c, path, hc, hstores⟩

end

lemma stores_outside
    (hcs : forall other, other ≠ chunk -> List.dlookup other cs' = List.dlookup other cs)
    (hpath : path.head? ≠ some chunk) :
    (node cs' ms ws').Stores path oid item <-> (node cs ms ws).Stores path oid item := by
  cases path with
  | nil => rw [stores_nil, stores_nil]
  | cons other path =>
    have hother : other ≠ chunk := fun h => hpath (congrArg some h)
    rw [stores_cons, stores_cons, hcs other hother]

lemma WellFormed.ne_of_stores_outside (hwf : WellFormed kind pre tree)
    (hchunks : oid.chunks = pre ++ chunk :: rest) (hpath : path.head? ≠ some chunk)
    (h : tree.Stores path o item) : o ≠ oid := by
  intro ho
  rw [ho] at h
  rw [hwf.path_eq hchunks h] at hpath
  exact hpath rfl

end ItemTree

end Eva4.Items
