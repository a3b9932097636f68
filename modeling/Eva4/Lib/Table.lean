import Mathlib.Data.List.AList

/-!
# Finite tables

Hash maps are association lists with distinct keys.  The order of the entries is
the order in which a map is iterated; no fact stated here depends on it.  Besides
the tables themselves there are plain keyed lists, for the maps inside recursive
types.
-/

namespace Eva4.Lib

open AList

variable {K V : Type} [DecidableEq K]

/-!
## Keyed lists
-/

lemma dlookup_kinsert_if {a b : K} {v : V} {l : List (Sigma fun _ : K => V)} :
    List.dlookup a (List.kinsert b v l) = if a = b then some v else List.dlookup a l := by
  by_cases hab : a = b
  · subst hab
    rw [if_pos rfl]
    exact List.dlookup_kinsert l
  · rw [if_neg hab]
    exact List.dlookup_kinsert_ne hab

variable {l : List (Sigma fun _ : K => V)}

lemma dlookup_kerase_if (hl : l.NodupKeys) : List.dlookup a (List.kerase b l) =
      if a = b then none else List.dlookup a l := by
  by_cases hab : a = b
  · subst hab
    rw [if_pos rfl]
    exact List.dlookup_kerase a hl
  · rw [if_neg hab]
    exact List.dlookup_kerase_ne hab

lemma mem_iff_dlookup (hl : l.NodupKeys) (s : Sigma fun _ : K => V) :
    s ∈ l <-> List.dlookup s.1 l = some s.2 :=
  (List.mem_dlookup_iff (b := s.2) hl).symm

lemma kinsert_ne_nil : List.kinsert a v l ≠ [] := by
  intro h
  rw [List.kinsert_def] at h
  cases h

lemma filter_key_eq (hl : l.NodupKeys) : (l.filter fun s => a == s.1) =
      match List.dlookup a l with
      | some v => [⟨a, v⟩]
      | none => [] := by
  induction l with
  | nil => rfl
  | cons s rest ih =>
    rcases List.nodupKeys_cons.mp hl with ⟨hnot, hrest⟩
    by_cases hs : a = s.1
    · subst hs
      have hnone : List.dlookup s.1 rest = none := List.dlookup_eq_none.mpr hnot
      rw [List.filter_cons_of_pos (by simp), ih hrest, hnone, List.dlookup_cons_eq rest s.1 s.2]
    · rw [List.filter_cons_of_neg (by simp [hs]), ih hrest, List.dlookup_cons_ne rest s hs]

/-!
## Tables
-/

abbrev Table (K V : Type) : Type :=
  AList (fun _ : K => V)

namespace Table

def vals (m : Table K V) : List V :=
  m.entries.map Sigma.snd

variable {m : Table K V} {P : K -> V -> Prop}

lemma mem_vals : x ∈ vals m <-> exists k, lookup k m = some x := by
  constructor
  · intro hx
    rcases List.mem_map.mp hx with ⟨s, hs, hsx⟩
    exists s.1
    rw [← hsx]
    exact (mem_iff_dlookup m.nodupKeys s).mp hs
  · intro hx
    rcases hx with ⟨k, hk⟩
    exact List.mem_map.mpr ⟨⟨k, x⟩, (mem_iff_dlookup m.nodupKeys ⟨k, x⟩).mpr hk, rfl⟩

theorem nodup_map_vals (hkey : forall k x, lookup k m = some x -> key x = k) :
    ((vals m).map key).Nodup := by
  have hkeys : (vals m).map key = m.keys := by
    unfold vals keys List.keys
    rw [List.map_map]
    apply List.map_congr_left
    intro s hs
    exact hkey s.1 s.2 ((mem_iff_dlookup m.nodupKeys s).mp hs)
  rw [hkeys]
  exact m.keys_nodup

lemma lookup_insert_if (a b : K) (v : V) (m : Table K V) : lookup a (insert b v m) =
      if a = b then some v else lookup a m :=
  dlookup_kinsert_if

lemma lookup_erase_if (a b : K) (m : Table K V) : lookup a (erase b m) =
      if a = b then none else lookup a m :=
  dlookup_kerase_if m.nodupKeys

lemma forall_replace (h : forall k w, lookup k m = some w -> k ≠ a -> P k w) (hv : P a v) :
    forall k w, lookup k (insert a v m) = some w -> P k w := by
  intro k w hw
  rw [lookup_insert_if] at hw
  split at hw
  · next heq =>
    injection hw with hvw
    rw [heq, ← hvw]
    exact hv
  · next hne => exact h k w hw hne

lemma forall_insert (h : forall k w, lookup k m = some w -> P k w) (hv : P a v) :
    forall k w, lookup k (insert a v m) = some w -> P k w :=
  forall_replace (fun k w hw _ => h k w hw) hv

lemma forall_erase (h : forall k w, lookup k m = some w -> k ≠ a -> P k w) :
    forall k w, lookup k (erase a m) = some w -> P k w := by
  intro k w hw
  rw [lookup_erase_if] at hw
  split at hw
  · cases hw
  · next hne => exact h k w hw hne

lemma mem_iff_lookup : a ∈ m <-> exists v, lookup a m = some v := by
  rw [← lookup_isSome]
  exact Option.isSome_iff_exists

lemma entries_eq_nil_iff : m.entries = [] <-> forall k, lookup k m = none := by
  constructor
  · intro h k
    unfold lookup
    rw [h]
    rfl
  · intro h
    cases hm : m.entries with
    | nil => rfl
    | cons s rest =>
      have hs : lookup s.1 m = some s.2 :=
        (mem_iff_dlookup m.nodupKeys s).mp (by rw [hm]; exact List.mem_cons_self)
      rw [h s.1] at hs
      cases hs

def retain (p : K -> V -> Bool) (m : Table K V) : Table K V where
  entries := m.entries.filter fun s => p s.1 s.2
  nodupKeys := m.nodupKeys.sublist List.filter_sublist

lemma lookup_retain : lookup k (retain p m) = (lookup k m).filter (p k) := by
  apply Option.ext
  intro v
  rw [Option.filter_eq_some_iff]
  have hleft : lookup k (retain p m) = some v <->
      (⟨k, v⟩ : Sigma fun _ : K => V) ∈ m.entries.filter fun s => p s.1 s.2 :=
    (mem_iff_dlookup (retain p m).nodupKeys ⟨k, v⟩).symm
  have hright : lookup k m = some v <-> (⟨k, v⟩ : Sigma fun _ : K => V) ∈ m.entries :=
    (mem_iff_dlookup m.nodupKeys ⟨k, v⟩).symm
  rw [hleft, hright, List.mem_filter]

lemma lookup_of_retain (h : lookup k (retain p m) = some v) : lookup k m = some v := by
  rw [lookup_retain, Option.filter_eq_some_iff] at h
  exact h.left

lemma insert_entries_ne_nil : (insert a v m).entries ≠ [] :=
  kinsert_ne_nil

end Table

end Eva4.Lib
