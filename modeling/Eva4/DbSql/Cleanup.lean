import Mathlib.Data.Finset.Max
import Eva4.Lib.Machine
import Eva4.DbSql.History

/-!
# Removing old records

A cleanup that keeps the last known states looks for the newest record of every OID before the
cutoff and deletes what is older.  States are stored meanwhile.
-/

namespace Eva4.DbSql

open Lib

/-- The committed table, the rows of the query that are left, and the keys which the transaction
has deleted.  What was stored since the query and what the query returned is kept to speak of. -/
structure Cleanup where
  table : Table Key Record
  cutoff : Option Int
  rest : List Key
  deleted : List Key
  selected : List Key
  stored : List Key
  result : Option (Bool × Table Key Record)

inductive CleanupEvent where
  | select (ut : Int)
  | store (k : Key) (r : Record)
  | delete
  | commit
  /-- A statement fails, or an OID cannot be read. -/
  | rollback

namespace Cleanup

def new (table : Table Key Record) : Cleanup where
  table := table
  cutoff := none
  rest := []
  deleted := []
  selected := []
  stored := []
  result := none

def maxTimes (ut : Int) (table : Table Key Record) : List Key :=
  table.keys.filter fun k => k.1 < ut ∧
    forall k', k' ∈ table.keys -> k'.2 = k.2 -> k'.1 < ut -> k'.1 ≤ k.1

def remaining (s : Cleanup) : Table Key Record :=
  s.table.retain fun k _ => k ∉ s.deleted

def step (c : OnConflict) : Machine Cleanup CleanupEvent := fun s e =>
  if s.result.isSome then none
  else
    match e with
    | .select ut =>
      if s.cutoff = none then
        let rows := maxTimes ut s.table
        some { s with cutoff := some ut, rest := rows, selected := rows, stored := [] }
      else none
    | .store k r =>
      -- a row that the transaction has deleted is locked
      if k ∈ s.deleted then none
      else some { s with
        table := s.table.insert k (c.resolve (s.table.lookup k) r), stored := k :: s.stored }
    | .delete =>
      match s.rest with
      | row :: rest => some { s with
          rest := rest
          deleted := s.table.keys.filter (fun k => k.2 = row.2 ∧ k.1 < row.1) ++ s.deleted }
      | [] => none
    | .commit =>
      if s.cutoff.isSome ∧ s.rest = [] then some { s with result := some (true, s.remaining) }
      else none
    | .rollback => some { s with result := some (false, s.table) }

/-!
## What is selected and deleted
-/

structure Sound (s : Cleanup) : Prop where
  unique : forall k, k ∈ s.selected -> forall k', k' ∈ s.selected -> k.2 = k'.2 -> k = k'
  kept : forall k, k ∈ s.selected -> k ∈ s.table ∧ exists ut, s.cutoff = some ut ∧ k.1 < ut
  older : forall k, k ∈ s.deleted -> exists m, m ∈ s.selected ∧ k.2 = m.2 ∧ k.1 < m.1
  left : forall row, row ∈ s.rest -> row ∈ s.selected
  listed : forall ut, s.cutoff = some ut -> forall k, k ∈ s.table -> k.1 < ut -> k ∉ s.stored ->
    k ∈ s.selected ∨ k ∈ s.deleted ∨ exists row, row ∈ s.rest ∧ k.2 = row.2 ∧ k.1 < row.1
  committed : forall after, s.result = some (true, after) -> s.rest = [] ∧ after = s.remaining
  failed : forall after, s.result = some (false, after) -> after = s.table

variable {table : Table Key Record} {ut : Int} {k : Key}

lemma mem_maxTimes : k ∈ maxTimes ut table <-> k ∈ table ∧ k.1 < ut ∧
    forall k', k' ∈ table -> k'.2 = k.2 -> k'.1 < ut -> k'.1 ≤ k.1 := by
  rw [maxTimes, List.mem_filter, decide_eq_true_iff]
  rfl

lemma maxTimes_unique (h : k ∈ maxTimes ut table) (h' : k' ∈ maxTimes ut table)
    (hoid : k.2 = k'.2) : k = k' := by
  rcases mem_maxTimes.mp h with ⟨hk, hold, hmax⟩
  rcases mem_maxTimes.mp h' with ⟨hk', hold', hmax'⟩
  exact Prod.ext (le_antisymm (hmax' k hk hoid hold) (hmax k' hk' hoid.symm hold')) hoid

lemma exists_newest (hk : k ∈ table) (hold : k.1 < ut) :
    k ∈ maxTimes ut table ∨ exists m, m ∈ maxTimes ut table ∧ k.2 = m.2 ∧ k.1 < m.1 := by
  let olds := (table.keys.filter fun k' => k'.2 = k.2 ∧ k'.1 < ut).toFinset
  have holds : forall k', k' ∈ olds <-> k' ∈ table ∧ k'.2 = k.2 ∧ k'.1 < ut := by
    intro k'
    rw [List.mem_toFinset, List.mem_filter, decide_eq_true_iff]
    rfl
  have hself : k ∈ olds := (holds k).mpr ⟨hk, rfl, hold⟩
  rcases olds.exists_max_image Prod.fst ⟨k, hself⟩ with ⟨m, hm, hmax⟩
  rcases (holds m).mp hm with ⟨hmem, hoid, hbefore⟩
  have hnewest : m ∈ maxTimes ut table := by
    refine mem_maxTimes.mpr ⟨hmem, hbefore, fun k' hk' hoid' hold' => hmax k' ?_⟩
    exact (holds k').mpr ⟨hk', hoid'.trans hoid, hold'⟩
  rcases (hmax k hself).eq_or_lt with heq | hlt
  · rw [Prod.ext heq hoid.symm]
    exact Or.inl hnewest
  · exact Or.inr ⟨m, hnewest, hoid.symm, hlt⟩

lemma new_sound {table : Table Key Record} : (new table).Sound where
  unique := nofun
  kept := nofun
  older := nofun
  left := nofun
  listed := nofun
  committed := nofun
  failed := nofun

variable {c : OnConflict} {s : Cleanup}

lemma Sound.step (h : s.Sound) (hstep : step c s e = some s') : s'.Sound := by
  unfold Cleanup.step at hstep
  split at hstep
  · cases hstep
  next hrunning =>
  have hresult : s.result = none := Option.not_isSome_iff_eq_none.mp hrunning
  have hopen : forall {ok after}, s.result ≠ some (ok, after) := by
    rw [hresult]
    exact nofun
  cases e with
  | select ut =>
    rcases of_guard hstep with ⟨hnone, rfl⟩
    constructor
    · exact fun k hk k' hk' => maxTimes_unique hk hk'
    · intro k hk
      rcases mem_maxTimes.mp hk with ⟨hmem, hold, _⟩
      exact ⟨hmem, ut, rfl, hold⟩
    · intro k hk
      -- nothing is deleted before the query
      rcases h.older k hk with ⟨m, hm, _⟩
      rcases h.kept m hm with ⟨_, _, hcutoff, _⟩
      rw [hnone] at hcutoff
      cases hcutoff
    · exact fun _ hrow => hrow
    · intro ut' hut k hk hold _
      cases hut
      rcases exists_newest hk hold with hnewest | hnewer
      · exact Or.inl hnewest
      · exact Or.inr (Or.inr hnewer)
    · exact fun _ hended => absurd hended hopen
    · exact fun _ hended => absurd hended hopen
  | store k r =>
    rcases Option.ite_none_left_eq_some.mp hstep with ⟨_, hs⟩
    cases hs
    refine ⟨h.unique, fun m hm => ?_, h.older, h.left, fun ut hut k' hk' hold hstored => ?_,
      fun _ hended => absurd hended hopen, fun _ hended => absurd hended hopen⟩
    · exact ⟨(AList.mem_insert _).mpr (Or.inr (h.kept m hm).left), (h.kept m hm).right⟩
    · rcases not_or.mp (mt List.mem_cons.mpr hstored) with ⟨hne, hstored⟩
      exact h.listed ut hut k' (((AList.mem_insert _).mp hk').resolve_left hne) hold hstored
  | delete =>
    dsimp only at hstep
    split at hstep
    · next row rest hrest =>
      cases hstep
      have hrow : row ∈ s.selected := h.left row (by rw [hrest]; exact List.mem_cons_self)
      refine ⟨h.unique, h.kept, fun k hk => ?_, fun row' hrow' => ?_, ?_,
        fun _ hended => absurd hended hopen, fun _ hended => absurd hended hopen⟩
      · rcases List.mem_append.mp hk with hnew | hold
        · have hboth := of_decide_eq_true (List.mem_filter.mp hnew).right
          exact ⟨row, hrow, hboth.left, hboth.right⟩
        · exact h.older k hold
      · exact h.left row' (by rw [hrest]; exact List.mem_cons_of_mem row hrow')
      · intro ut hut k hk hold hstored
        rcases h.listed ut hut k hk hold hstored with
          hselected | hdeleted | ⟨row', hrow', hoid, hlt⟩
        · exact Or.inl hselected
        · exact Or.inr (Or.inl (List.mem_append_right _ hdeleted))
        · rw [hrest] at hrow'
          rcases List.mem_cons.mp hrow' with heq | hrow'
          · rw [heq] at hoid hlt
            refine Or.inr (Or.inl (List.mem_append_left _ (List.mem_filter.mpr ⟨hk, ?_⟩)))
            exact decide_eq_true ⟨hoid, hlt⟩
          · exact Or.inr (Or.inr ⟨row', hrow', hoid, hlt⟩)
    · cases hstep
  | commit =>
    rcases of_guard hstep with ⟨hready, rfl⟩
    refine ⟨h.unique, h.kept, h.older, h.left, h.listed, fun after hended => ?_, nofun⟩
    cases hended
    exact ⟨hready.right, rfl⟩
  | rollback =>
    cases hstep
    refine ⟨h.unique, h.kept, h.older, h.left, h.listed, nofun, fun after hended => ?_⟩
    cases hended
    rfl

/-!
## Whole runs
-/

/-- The latest record of an OID at or before a time. -/
def IsLatest (table : Table Key Record) (oid : String) (time t : Int) (r : Record) : Prop :=
  table.lookup (t, oid) = some r ∧ t ≤ time ∧ forall t', (t', oid) ∈ table -> t' ≤ time -> t' ≤ t

/-- What a cleanup has made of the table it has found, with all that was stored meanwhile. -/
structure KeepsPast (s : Cleanup) (ok : Bool) (after : Table Key Record) : Prop where
  deletes : forall ut, s.cutoff = some ut -> forall k, after.lookup k ≠ s.table.lookup k ->
    after.lookup k = none ∧ k.1 < ut
  failed : ok = false -> after = s.table
  one : ok = true -> forall ut, s.cutoff = some ut -> forall k, k ∈ after -> k ∉ s.stored ->
    forall k', k' ∈ after -> k' ∉ s.stored -> k.2 = k'.2 -> k.1 < ut -> k'.1 < ut -> k = k'
  latest : forall ut, s.cutoff = some ut -> forall oid time, ut ≤ time -> forall t r,
    IsLatest after oid time t r <-> IsLatest s.table oid time t r

lemma lookup_remaining :
    s.remaining.lookup k = if k ∈ s.deleted then none else s.table.lookup k := by
  rw [remaining, Table.lookup_retain]
  by_cases hdeleted : k ∈ s.deleted
  · rw [if_pos hdeleted]
    exact Option.filter_eq_none_iff.mpr fun _ _ h => of_decide_eq_true h hdeleted
  · rw [if_neg hdeleted, decide_eq_true hdeleted]
    cases s.table.lookup k <;> rfl

lemma mem_remaining : k ∈ s.remaining <-> k ∈ s.table ∧ k ∉ s.deleted := by
  rw [← AList.lookup_isSome, lookup_remaining, ← AList.lookup_isSome]
  split
  · next h => exact iff_of_false nofun fun hboth => hboth.right h
  · next h => exact (and_iff_left h).symm

section

variable (h : s.Sound)
include h

lemma Sound.selected_remains (hk : k ∈ s.selected) : k ∈ s.remaining := by
  refine mem_remaining.mpr ⟨(h.kept k hk).left, fun hdeleted => ?_⟩
  rcases h.older k hdeleted with ⟨m, hm, hoid, hlt⟩
  rw [h.unique k hk m hm hoid] at hlt
  exact lt_irrefl _ hlt

/-- A deleted record has a newer one that is left, and is before the cutoff. -/
theorem Sound.newer_remains (hcutoff : s.cutoff = some ut) (hk : (t, oid) ∈ s.deleted) :
    exists m, (m, oid) ∈ s.remaining ∧ t < m ∧ m < ut := by
  rcases h.older _ hk with ⟨m, hm, hoid, hlt⟩
  rcases (h.kept m hm).right with ⟨ut', hcutoff', hold⟩
  rw [hcutoff] at hcutoff'
  cases hcutoff'
  have hmem := h.selected_remains hm
  rw [show m = (m.1, oid) from Prod.ext rfl hoid.symm] at hmem
  exact ⟨m.1, hmem, hlt, hold⟩

lemma Sound.latest_remaining_iff (hcutoff : s.cutoff = some ut) (htime : ut ≤ time) :
    IsLatest s.remaining oid time t r <-> IsLatest s.table oid time t r := by
  constructor
  · rintro ⟨hr, ht, hmax⟩
    rw [lookup_remaining] at hr
    refine ⟨(Option.ite_none_left_eq_some.mp hr).right, ht, fun t' ht' hle => ?_⟩
    by_cases hdeleted : (t', oid) ∈ s.deleted
    · rcases h.newer_remains hcutoff hdeleted with ⟨m, hm, hlt, hold⟩
      have hmle := hmax m hm (by omega)
      omega
    · exact hmax t' (mem_remaining.mpr ⟨ht', hdeleted⟩) hle
  · rintro ⟨hr, ht, hmax⟩
    refine ⟨?_, ht, fun t' ht' => hmax t' (mem_remaining.mp ht').left⟩
    rw [lookup_remaining, if_neg, hr]
    intro hdeleted
    rcases h.newer_remains hcutoff hdeleted with ⟨m, hm, hlt, hold⟩
    have hmle := hmax m (mem_remaining.mp hm).left (by omega)
    omega

lemma Sound.keepsPast (hresult : s.result = some (ok, after)) : KeepsPast s ok after := by
  cases ok with
  | false =>
    rw [h.failed after hresult]
    exact ⟨fun _ _ _ hne => absurd rfl hne, fun _ => rfl, nofun, fun _ _ _ _ _ _ _ => Iff.rfl⟩
  | true =>
    rcases h.committed after hresult with ⟨hrest, hafter⟩
    rw [hafter]
    refine ⟨fun ut hcutoff k hne => ?_, nofun, fun _ ut hcutoff => ?_,
      fun ut hcutoff oid time htime t r => h.latest_remaining_iff hcutoff htime⟩
    · rw [lookup_remaining] at hne ⊢
      by_cases hdeleted : k ∈ s.deleted
      · rcases h.newer_remains hcutoff hdeleted with ⟨m, _, hlt, hold⟩
        rw [if_pos hdeleted]
        exact ⟨rfl, hlt.trans hold⟩
      · exact absurd (if_neg hdeleted) hne
    · have hselected : forall k, k ∈ s.remaining -> k ∉ s.stored -> k.1 < ut -> k ∈ s.selected := by
        intro k hk hstored hold
        rcases mem_remaining.mp hk with ⟨hmem, hleft⟩
        rcases h.listed ut hcutoff k hmem hold hstored with hin | hdeleted | ⟨row, hrow, _⟩
        · exact hin
        · exact absurd hdeleted hleft
        · rw [hrest] at hrow
          cases hrow
      intro k hk hstored k' hk' hstored' hoid hold hold'
      exact h.unique k (hselected k hk hstored hold) k' (hselected k' hk' hstored' hold') hoid

end

/-- In every run, a cleanup deletes only records before the cutoff, keeps for all times from the
cutoff on what is known of them, and leaves one older record for each OID beside those that were
stored since its query; one that fails deletes nothing. -/
theorem cleanup_keeps_past {table : Table Key Record} {ok : Bool} {after : Table Key Record}
    (hrun : (Cleanup.step c).Reaches (fun _ _ => True) (new table) s)
    (hresult : s.result = some (ok, after)) : KeepsPast s ok after :=
  (hrun.invariant new_sound fun h _ hstep => h.step hstep).keepsPast hresult

def sampleTable : Table Key Record :=
  [(3, "sensor:t"), (5, "sensor:t"), (12, "sensor:t")].foldr (fun k table =>
    table.insert k { status := 1, value := none }) ∅

/-- The oldest of three records is deleted. -/
theorem oldest_record_deleted : exists s after, (Cleanup.step .replace).runChecked (fun _ _ => true)
        [.select 10, .delete, .commit] (new sampleTable) = some s ∧
      s.result = some (true, after) ∧ after.keys = [(5, "sensor:t"), (12, "sensor:t")] ∧
      KeepsPast s true after :=
  ⟨_, _, rfl, rfl, by decide, cleanup_keeps_past (.of_runChecked (fun _ _ _ => trivial) .start
    (show (Cleanup.step .replace).runChecked (fun _ _ => true) [.select 10, .delete, .commit]
      (new sampleTable) = some _ from rfl)) rfl⟩

/-- A state from before the cutoff is stored after the query, and two such records are left. -/
theorem stored_meanwhile_left :
    exists s after, (Cleanup.step .replace).runChecked (fun _ _ => true)
        [.select 10, .store (7, "sensor:t") { status := 1, value := none }, .delete, .commit]
        (new sampleTable) = some s ∧
      s.result = some (true, after) ∧ s.cutoff = some 10 ∧
      (5, "sensor:t") ∈ after ∧ (7, "sensor:t") ∈ after :=
  ⟨_, _, rfl, rfl, rfl, by decide, by decide⟩

end Cleanup

end Eva4.DbSql
