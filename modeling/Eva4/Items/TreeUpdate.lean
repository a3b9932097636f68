import Eva4.Items.TreeInvariant

/-!
# Insertion into and removal from item trees

On a well-formed tree an insertion either is refused and leaves the tree as it
was, or stores the item at the end of its path and nothing else changes; a removal
takes the item out and prunes the nodes it leaves empty.
-/

namespace Eva4.Items

open Lib Table
open AList (erase ext insert lookup)

variable {V : Type}

namespace ItemTree

/-!
## What one OID is stored as
-/

/-- The second tree stores what the first does, except that one OID is stored as the
given item at a path, or nowhere. -/
def StoresAfter (tree tree' : ItemTree V) (oid : OID) (path : List String)
    (new : Option (Item V)) : Prop :=
  forall q o x, tree'.Stores q o x <->
    (o = oid ∧ q = path ∧ new = some x) ∨ (o ≠ oid ∧ tree.Stores q o x)

variable {cs : List (Sigma fun _ : String => ItemTree V)} {chunk : String} {c' tree : ItemTree V}
  {oid : OID}

def pruneChild (chunk : String) (c' : ItemTree V) (cs : List (Sigma fun _ : String => ItemTree V)) :
    List (Sigma fun _ : String => ItemTree V) :=
  if c'.isEmpty then List.kerase chunk cs else List.kinsert chunk c' cs

lemma dlookup_pruneChild (chunk : String) (c' : ItemTree V) (hnodup : cs.NodupKeys) (other : String)
    :
    List.dlookup other (pruneChild chunk c' cs) = if other = chunk then
      if c'.isEmpty then none else some c' else List.dlookup other cs := by
  unfold pruneChild
  split
  · exact dlookup_kerase_if hnodup
  · exact dlookup_kinsert_if

lemma stores_pruned : (exists c, (if c'.isEmpty then none else some c') = some c ∧
    c.Stores path oid item) <-> c'.Stores path oid item := by
  cases hempty : c'.isEmpty with
  | true =>
    have hnone : ¬ c'.Stores path oid item := by
      intro h
      rw [isEmpty_of_stores h] at hempty
      cases hempty
    simp [hnone]
  | false => simp

section

variable {kind : ItemKind} {pre rest : List String} {ms ws ws' : Table OID (Item V)}
  {new : Option (Item V)} (hwf : WellFormed kind pre (node cs ms ws))
include hwf

lemma WellFormed.changeMember (hchunks : oid.chunks = pre)
    (hms' : forall o, lookup o ms' = if o = oid then new else lookup o ms)
    (hnew : forall x, new = some x -> x.oid = oid ∧ oid.kind = kind) :
    WellFormed kind pre (node cs ms' ws) ∧
      StoresAfter (node cs ms ws) (node cs ms' ws) oid [] new := by
  have hpath : oid.chunks = pre ++ [] := by
    rw [List.append_nil]
    exact hchunks
  constructor
  · rcases hwf with ⟨hnodup, hcs, hcsne, hms, hws⟩
    refine WellFormed.intro hnodup hcs hcsne ?_ hws
    intro o x hx
    rw [hms'] at hx
    by_cases ho : o = oid
    · rw [if_pos ho] at hx
      rw [ho]
      exact ⟨(hnew x hx).left, (hnew x hx).right, hchunks⟩
    · rw [if_neg ho] at hx
      exact hms o x hx
  · intro q o x
    cases q with
    | nil =>
      rw [stores_nil, stores_nil, hms']
      by_cases ho : o = oid
      · simp [ho]
      · simp [ho]
    | cons chunk rest =>
      rw [stores_cons, stores_cons]
      constructor
      · intro h
        apply Or.inr
        constructor
        · intro ho
          rw [ho] at h
          cases hwf.path_eq hpath (stores_cons.mpr h)
        · exact h
      · intro h
        rcases h with hnew | hold
        · cases hnew.right.left
        · exact hold.right

variable (hchunks : oid.chunks = pre ++ chunk :: rest)
  (hstores : forall q o x, c'.Stores q o x <-> (o = oid ∧ q = rest ∧ new = some x) ∨
    (o ≠ oid ∧ (node cs ms ws).Stores (chunk :: q) o x))
  (hws' : forall o, lookup o ws' = if o = oid then new else lookup o ws)
include hchunks hstores hws'

lemma WellFormed.changeBelow_cache : lookup o ws' = some x <->
    (exists q, c'.Stores q o x) ∨ StoredBeside cs chunk o x := by
  rw [hws']
  by_cases ho : o = oid
  · have hbeside := hwf.not_storedBeside hchunks x
    simp [hstores, ho, hbeside]
  · rw [if_neg ho, hwf.cache_iff chunk]
    simp [hstores, ho]

theorem WellFormed.changeBelow (hc' : WellFormed kind (pre ++ [chunk]) c') :
    WellFormed kind pre (node (pruneChild chunk c' cs) ms ws') ∧
      StoresAfter (node cs ms ws) (node (pruneChild chunk c' cs) ms ws') oid
        (chunk :: rest) new := by
  have hnodup : cs.NodupKeys := hwf.nodupKeys
  have hlookup := dlookup_pruneChild chunk c' hnodup
  constructor
  · apply hwf.changeChild _ hlookup
    · intro c hc
      split at hc
      · cases hc
      · next hempty =>
        cases hc
        exact ⟨hc', Bool.eq_false_iff.mpr hempty⟩
    · intro o x
      rw [hwf.changeBelow_cache hchunks hstores hws', exists_comm]
      simp only [stores_pruned]
    · unfold pruneChild
      split
      · exact hnodup.kerase chunk
      · exact List.kinsert_nodupKeys chunk c' hnodup
  · intro q o x
    by_cases hq : q.head? = some chunk
    · rcases List.head?_eq_some_iff.mp hq with ⟨q', hq'⟩
      rw [hq', stores_cons, hlookup, if_pos rfl, stores_pruned]
      simpa using hstores q' o x
    · have hpath : q ≠ chunk :: rest := by
        intro h
        rw [h] at hq
        exact hq rfl
      rw [stores_outside (fun other hother => (hlookup other).trans (if_neg hother)) hq]
      constructor
      · intro h
        exact Or.inr ⟨hwf.ne_of_stores_outside hchunks hq h, h⟩
      · intro h
        rcases h with hnew | hold
        · exact absurd hnew.right.left hpath
        · exact hold.right

end

/-!
## Insertion
-/

def StoresAfterAppend (tree tree' : ItemTree V) (path : List String) (item : Item V) : Prop :=
  forall q o x, tree'.Stores q o x <->
    (o = item.oid ∧ q = path ∧ x = item) ∨ (o ≠ item.oid ∧ tree.Stores q o x)

lemma storesAfter_some :
    StoresAfter tree tree' item.oid path (some item) <->
      StoresAfterAppend tree tree' path item := by
  simp only [StoresAfter, StoresAfterAppend, Option.some.injEq, eq_comm]

theorem WellFormed.appendBelow (hwf : WellFormed kind pre (node cs ms ws))
    (hchunks : item.oid.chunks = pre ++ chunk :: rest) (hc' : WellFormed kind (pre ++ [chunk]) c')
    (hstores : forall q o x, c'.Stores q o x <-> (o = item.oid ∧ q = rest ∧ x = item) ∨
        (o ≠ item.oid ∧ (node cs ms ws).Stores (chunk :: q) o x)) : WellFormed kind pre
        (node (List.kinsert chunk c' cs) ms (insert item.oid item ws)) ∧
      StoresAfterAppend (node cs ms ws)
        (node (List.kinsert chunk c' cs) ms (insert item.oid item ws)) (chunk :: rest) item := by
  have hitem : c'.Stores rest item.oid item :=
    (hstores rest item.oid item).mpr (Or.inl ⟨rfl, rfl, rfl⟩)
  have hbelow := hwf.changeBelow hchunks (by simpa only [eq_comm, Option.some.injEq] using hstores)
    (lookup_insert_if · item.oid item ws) hc'
  rw [pruneChild, isEmpty_of_stores hitem, if_neg Bool.false_ne_true, storesAfter_some] at hbelow
  exact hbelow

variable (hwf : WellFormed kind pre tree)
include hwf

lemma appendItemRec_duplicate (h : tree.Stores path item.oid old) :
    appendItemRec tree path item false =
      (.error (alreadyRegistered item.oid), tree) := by
  rcases tree with ⟨cs, ms, ws⟩
  cases path with
  | nil =>
    have hmem : item.oid ∈ ms :=
      mem_iff_lookup.mpr ⟨old, stores_nil.mp h⟩
    simp [appendItemRec, hmem]
  | cons chunk rest =>
    have hmem : item.oid ∈ ws :=
      mem_iff_lookup.mpr
        ⟨old, (hwf.membersWildcard item.oid).mpr
          ⟨chunk :: rest, List.cons_ne_nil chunk rest, h⟩⟩
    simp [appendItemRec, hmem]

theorem WellFormed.appendItemRec (hkind : item.oid.kind = kind)
    (hchunks : item.oid.chunks = pre ++ path)
    (hok : replace = true ∨ forall x, ¬ tree.Stores path item.oid x) :
    exists tree', appendItemRec tree path item replace = (.ok (), tree') ∧
      WellFormed kind pre tree' ∧ StoresAfterAppend tree tree' path item := by
  induction path generalizing pre tree with
  | nil =>
    rcases tree with ⟨cs, ms, ws⟩
    have hcond : ¬ (item.oid ∈ ms ∧ replace = false) := by
      intro h
      rcases mem_iff_lookup.mp h.left with ⟨x, hx⟩
      rcases hok with htrue | hnone
      · rw [htrue] at h
        cases h.right
      · exact hnone x (stores_nil.mpr hx)
    rw [List.append_nil] at hchunks
    rcases hwf.changeMember hchunks (lookup_insert_if · item.oid item ms) (by
      intro x hx
      cases hx
      exact ⟨rfl, hkind⟩) with ⟨hwf', hstores⟩
    refine ⟨node cs (insert item.oid item ms) ws, ?_, hwf', storesAfter_some.mp hstores⟩
    rw [Items.appendItemRec, if_neg hcond]
  | cons chunk rest ih =>
    rcases tree with ⟨cs, ms, ws⟩
    have hcond : ¬ (item.oid ∈ ws ∧ replace = false) := by
      intro h
      rcases mem_iff_lookup.mp h.left with ⟨x, hx⟩
      rcases hok with htrue | hnone
      · rw [htrue] at h
        cases h.right
      · rcases (hwf.membersWildcard item.oid).mp hx with ⟨q, _, hq⟩
        rw [hwf.path_eq hchunks hq] at hq
        exact hnone x hq
    have hrest : item.oid.chunks = (pre ++ [chunk]) ++ rest := by
      rw [hchunks, List.append_assoc]
      rfl
    rw [Items.appendItemRec, if_neg hcond]
    cases hc : List.dlookup chunk cs with
    | some c =>
      have hokc : replace = true ∨ forall x, ¬ c.Stores rest item.oid x := by
        rcases hok with htrue | hnone
        · exact Or.inl htrue
        · apply Or.inr
          intro x hx
          exact hnone x (stores_cons.mpr ⟨c, hc, hx⟩)
      rcases ih (hwf.child hc) hrest hokc with ⟨c', heq, hwf', hstores⟩
      have hbelow := hwf.appendBelow hchunks hwf' (by
        intro q o x
        rw [hstores q o x, stores_cons, hc]
        simp)
      refine ⟨_, ?_, hbelow⟩
      simp only [heq]
    | none =>
      have hokc : replace = true ∨ forall x, ¬ (empty : ItemTree V).Stores rest item.oid x :=
        Or.inr (fun _ => not_stores_empty)
      rcases ih empty_wellFormed hrest hokc with ⟨c', heq, hwf', hstores⟩
      have hbelow := hwf.appendBelow hchunks hwf' (by
        intro q o x
        rw [hstores q o x, stores_cons, hc]
        simp [not_stores_empty])
      refine ⟨_, ?_, hbelow⟩
      simp only [heq]

/-!
## Removal
-/

def StoresAfterRemove (tree tree' : ItemTree V) (oid : OID) : Prop :=
  forall q o x, tree'.Stores q o x <-> o ≠ oid ∧ tree.Stores q o x

omit hwf in
lemma storesAfter_none :
    StoresAfter tree tree' oid path none <-> StoresAfterRemove tree tree' oid := by
  simp [StoresAfter, StoresAfterRemove]

lemma removeItemRec_absent (hchunks : oid.chunks = pre ++ path)
    (h : forall x, ¬ tree.Stores path oid x) : removeItemRec tree path oid = (none, tree) := by
  rcases tree with ⟨cs, ms, ws⟩
  cases path with
  | nil =>
    have hnone : lookup oid ms = none := by
      rw [Option.eq_none_iff_forall_ne_some]
      intro x hx
      exact h x (stores_nil.mpr hx)
    have herase : erase oid ms = ms :=
      ext (List.kerase_of_notMem_keys (AList.lookup_eq_none.mp hnone))
    rw [removeItemRec, hnone, herase]
  | cons chunk rest =>
    have hnone : lookup oid ws = none := by
      rw [Option.eq_none_iff_forall_ne_some]
      intro x hx
      rcases (hwf.membersWildcard oid).mp hx with ⟨q, _, hq⟩
      rw [hwf.path_eq hchunks hq] at hq
      exact h x hq
    rw [removeItemRec, hnone]

lemma WellFormed.removeItemRec (hchunks : oid.chunks = pre ++ path) (h : tree.Stores path oid item)
    :
    exists tree', removeItemRec tree path oid = (some item, tree') ∧
      WellFormed kind pre tree' ∧ StoresAfterRemove tree tree' oid := by
  induction path generalizing pre tree with
  | nil =>
    rcases tree with ⟨cs, ms, ws⟩
    rw [List.append_nil] at hchunks
    rcases hwf.changeMember hchunks (lookup_erase_if · oid ms) (by
      intro x hx
      cases hx) with ⟨hwf', hstores⟩
    refine ⟨node cs (erase oid ms) ws, ?_, hwf', storesAfter_none.mp hstores⟩
    rw [Items.removeItemRec, stores_nil.mp h]
  | cons chunk rest ih =>
    rcases tree with ⟨cs, ms, ws⟩
    have hcached : lookup oid ws = some item :=
      (hwf.membersWildcard oid).mpr ⟨chunk :: rest, List.cons_ne_nil chunk rest, h⟩
    have hrest : oid.chunks = (pre ++ [chunk]) ++ rest := by
      rw [hchunks, List.append_assoc]
      rfl
    rcases stores_cons.mp h with ⟨c, hc, hchild⟩
    rcases ih (hwf.child hc) hrest hchild with ⟨c', heq, hwf', hstores⟩
    have hbelow := hwf.changeBelow hchunks (by
      intro q o x
      rw [hstores q o x, stores_cons, hc]
      simp) (lookup_erase_if · oid ws) hwf'
    refine ⟨_, ?_, hbelow.left, storesAfter_none.mp hbelow.right⟩
    rw [Items.removeItemRec, hcached]
    simp only [hc, heq, ItemTree.pruneChild]
    cases c'.isEmpty with
    | true | false => rfl

end ItemTree

end Eva4.Items
