import Eva4.Items.TreeUpdate

/-!
# Lookup by mask

A mask is matched against a tree chunk by chunk.  The wildcard for any number of
chunks answers from the cache of a node, the other patterns select children.  On a
well-formed tree the lookup finds, each once, exactly the stored items whose path
the mask matches and which pass the filter.
-/

namespace Eva4.Items

open Lib

variable {V : Type}

/-!
## Filters
-/

inductive NodeFilter where
  | localNode
  | remote (id : String)
  | remoteAny
deriving DecidableEq, Repr

/-- Mask lists and the pattern of a filter are taken as predicates. -/
structure Filter where
  includeList : Option (OID -> Bool) := none
  excludeList : Option (OID -> Bool) := none
  node : Option NodeFilter := none
  pattern : Option (String -> Bool) := none

namespace Filter

def nodeMatches (filter : Filter) (item : Item V) : Bool :=
  match filter.node with
  | none => true
  | some .localNode => item.source.isNone
  | some .remoteAny => item.source.isSome
  | some (.remote id) =>
    match item.source with
    | some source => id == "#" || id == "*" || source.node == id
    | none => false

def «matches» (filter : Filter) (item : Item V) : Bool :=
  filter.nodeMatches item &&
    (match filter.pattern with
      | some pattern => pattern item.oid.asStr
      | none => true) &&
    (match filter.includeList with
      | some f => f item.oid
      | none => true) &&
    (match filter.excludeList with
      | some f => !f item.oid
      | none => true)

end Filter

/-!
## The lookup
-/

def stripLeading (lead text : String) : Option String :=
  if lead.toList <+: text.toList then some (String.ofList (text.toList.drop lead.toList.length))
  else none

def filteredVals (filter : Filter) (m : Table OID (Item V)) : List (Item V) :=
  (Table.vals m).filter filter.matches

def getItemByMaskRec [EvaCommon V] (filter : Filter) : ItemTree V -> List String -> List (Item V)
  | .node cs _ ws, chunk :: rest =>
    if chunk = "#" then filteredVals filter ws
    else if chunk = "+" then cs.flatMap fun child => getItemByMaskRec filter child.2 rest
    else
      match stripLeading (EvaCommon.formulaPrefix (V := V)) chunk with
      | some f =>
        (cs.filter fun child => EvaCommon.keyMatchesFormula (V := V) f child.1).flatMap
          fun child => getItemByMaskRec filter child.2 rest
      | none =>
        match stripLeading (EvaCommon.regexPrefix (V := V)) chunk with
        | some regex =>
          match EvaCommon.regexNew (V := V) regex with
          | some isMatch =>
            (cs.filter fun child => isMatch child.1).flatMap
              fun child => getItemByMaskRec filter child.2 rest
          | none => []
        | none =>
          match List.dlookup chunk cs with
          | some child => getItemByMaskRec filter child rest
          | none => []
  | .node _ ms _, [] => filteredVals filter ms

/-!
## What a mask means
-/

section Matching

variable (V) [EvaCommon V]

def chunkMatches (mask chunk : String) : Bool :=
  if mask = "+" then true
  else
    match stripLeading (EvaCommon.formulaPrefix (V := V)) mask with
    | some f => EvaCommon.keyMatchesFormula (V := V) f chunk
    | none =>
      match stripLeading (EvaCommon.regexPrefix (V := V)) mask with
      | some regex =>
        match EvaCommon.regexNew (V := V) regex with
        | some isMatch => isMatch chunk
        | none => false
      | none => mask == chunk

/-- The number sign matches one or more remaining chunks. -/
def chunksMatch : List String -> List String -> Bool
  | [], path => path.isEmpty
  | mask :: masks, path =>
    if mask = "#" then !path.isEmpty
    else
      match path with
      | [] => false
      | chunk :: rest => chunkMatches V mask chunk && chunksMatch masks rest

end Matching

theorem getItemByMaskRec_cons [EvaCommon V] (filter : Filter) {ms ws : Table OID (Item V)}
    (hcs : cs.NodupKeys) (hmask : mask ≠ "#") {masks : List String} :
    getItemByMaskRec filter (.node cs ms ws) (mask :: masks) =
      (cs.filter fun child => chunkMatches V mask child.1).flatMap
        fun child => getItemByMaskRec filter child.2 masks := by
  rw [getItemByMaskRec, if_neg hmask]
  unfold chunkMatches
  by_cases hplus : mask = "+"
  · simp only [if_pos hplus, List.filter_true]
  · simp only [if_neg hplus]
    cases stripLeading (EvaCommon.formulaPrefix (V := V)) mask with
    | some f => rfl
    | none =>
      cases stripLeading (EvaCommon.regexPrefix (V := V)) mask with
      | some regex =>
        cases hregex : EvaCommon.regexNew (V := V) regex with
        | some | none => simp [hregex]
      | none =>
        simp only [filter_key_eq hcs]
        cases List.dlookup mask cs with
        | some | none => simp

/-!
## Exactness of the lookup
-/

lemma mem_filteredVals : x ∈ filteredVals filter m <->
      (exists o, AList.lookup o m = some x) ∧ filter.matches x = true := by
  unfold filteredVals
  rw [List.mem_filter, Table.mem_vals]

namespace ItemTree

variable {tree : ItemTree V}

theorem WellFormed.mem_getItemByMaskRec [EvaCommon V] (hwf : WellFormed kind pre tree) :
    x ∈ getItemByMaskRec filter tree masks <->
      exists path o, tree.Stores path o x ∧ chunksMatch V masks path = true ∧
        filter.matches x = true := by
  induction masks generalizing pre tree with
  | nil =>
    rcases tree with ⟨cs, ms, ws⟩
    rw [getItemByMaskRec, mem_filteredVals]
    constructor
    · intro h
      rcases h with ⟨⟨o, ho⟩, hfilter⟩
      exact ⟨[], o, stores_nil.mpr ho, rfl, hfilter⟩
    · intro h
      rcases h with ⟨path, o, hstores, hmatch, hfilter⟩
      cases path with
      | nil => exact ⟨⟨o, stores_nil.mp hstores⟩, hfilter⟩
      | cons chunk rest => cases hmatch
  | cons mask masks ih =>
    rcases tree with ⟨cs, ms, ws⟩
    by_cases hmask : mask = "#"
    · rw [getItemByMaskRec, if_pos hmask, mem_filteredVals]
      have hcache : forall o, AList.lookup o ws = some x <->
          exists path, path ≠ [] ∧ (node cs ms ws).Stores path o x :=
        fun o => hwf.membersWildcard o
      simp only [hcache, chunksMatch, if_pos hmask]
      constructor
      · intro h
        rcases h with ⟨⟨o, path, hne, hstores⟩, hfilter⟩
        exact ⟨path, o, hstores, by simp [hne], hfilter⟩
      · intro h
        rcases h with ⟨path, o, hstores, hmatch, hfilter⟩
        exact ⟨⟨o, path, by simpa using hmatch, hstores⟩, hfilter⟩
    · have hnodup : cs.NodupKeys := hwf.nodupKeys
      rw [getItemByMaskRec_cons filter hnodup hmask]
      simp only [List.mem_flatMap, List.mem_filter, mem_iff_dlookup hnodup]
      constructor
      · intro h
        rcases h with ⟨child, ⟨hc, hmatch⟩, hx⟩
        rcases (ih (hwf.child hc)).mp hx with ⟨path, o, hstores, hrest, hfilter⟩
        refine ⟨child.1 :: path, o, stores_cons.mpr ⟨child.2, hc, hstores⟩, ?_, hfilter⟩
        simp [chunksMatch, hmask, hmatch, hrest]
      · intro h
        rcases h with ⟨path, o, hstores, hmatch, hfilter⟩
        cases path with
        | nil => simp [chunksMatch, hmask] at hmatch
        | cons chunk rest =>
          simp only [chunksMatch, if_neg hmask, Bool.and_eq_true] at hmatch
          rcases stores_cons.mp hstores with ⟨c, hc, hrest⟩
          exact ⟨⟨chunk, c⟩, ⟨hc, hmatch.left⟩,
            (ih (hwf.child hc)).mpr ⟨rest, o, hrest, hmatch.right, hfilter⟩⟩

lemma nodup_filteredVals {m : Table OID (Item V)}
    (hkey : forall o x, AList.lookup o m = some x -> x.oid = o) :
    ((filteredVals filter m).map Item.oid).Nodup := by
  have hsub : List.Sublist ((filteredVals filter m).map Item.oid) ((Table.vals m).map Item.oid) :=
    List.filter_sublist.map Item.oid
  exact (Table.nodup_map_vals hkey).sublist hsub

lemma WellFormed.nodup_getItemByMaskRec [EvaCommon V] (hwf : WellFormed kind pre tree) :
    ((getItemByMaskRec filter tree masks).map Item.oid).Nodup := by
  induction masks generalizing pre tree with
  | nil =>
    rcases tree with ⟨cs, ms, ws⟩
    apply nodup_filteredVals
    intro o x hx
    exact (hwf.of_stores (stores_nil.mpr hx)).left
  | cons mask masks ih =>
    rcases tree with ⟨cs, ms, ws⟩
    by_cases hmask : mask = "#"
    · rw [getItemByMaskRec, if_pos hmask]
      apply nodup_filteredVals
      intro o x hx
      rcases (hwf.membersWildcard o).mp hx with ⟨path, _, hstores⟩
      exact (hwf.of_stores hstores).left
    · have hnodup : cs.NodupKeys := hwf.nodupKeys
      have hchild : forall s, s ∈ cs -> WellFormed kind (pre ++ [s.1]) s.2 :=
        fun s hs => hwf.child ((mem_iff_dlookup hnodup s).mp hs)
      rw [getItemByMaskRec_cons filter hnodup hmask, List.map_flatMap, List.nodup_flatMap]
      constructor
      · intro child hmem
        exact ih (hchild child (List.mem_filter.mp hmem).left)
      · -- results of two children differ in the chunk after the prefix
        have hpairs := (List.nodupKeys_iff_pairwise.mp hnodup).filter
          (fun child => chunkMatches V mask child.1)
        apply hpairs.imp_of_mem
        intro a b ha hb hab
        have hwfa := hchild a (List.mem_filter.mp ha).left
        have hwfb := hchild b (List.mem_filter.mp hb).left
        intro o hoa hob
        rcases List.mem_map.mp hoa with ⟨x, hx, hxo⟩
        rcases List.mem_map.mp hob with ⟨y, hy, hyo⟩
        rcases hwfa.mem_getItemByMaskRec.mp hx with ⟨path, ox, hxs, _, _⟩
        rcases hwfb.mem_getItemByMaskRec.mp hy with ⟨path', oy, hys, _, _⟩
        have hxspec := hwfa.of_stores hxs
        have hyspec := hwfb.of_stores hys
        have hchunks : (pre ++ [a.1]) ++ path = (pre ++ [b.1]) ++ path' := by
          rw [← hxspec.right.right, ← hyspec.right.right, ← hxspec.left, ← hyspec.left, hxo, hyo]
        rw [List.append_assoc, List.append_assoc] at hchunks
        have htail := List.append_cancel_left hchunks
        injection htail with hhead _
        exact hab hhead

end ItemTree

end Eva4.Items
