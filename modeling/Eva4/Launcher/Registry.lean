import Eva4.Lib.Machine
import Eva4.Lib.Table

/-!
# The services of one id

What the calls of the launcher do, without runners and processes: services are numbered in the
order in which they are created, and a call stops at most one and creates at most one.  If a
service is created while none with its id is being stopped, all older services with its id have
been stopped before.
-/

namespace Eva4.Launcher

open Lib

/-- The ids of the services ever created, the map of those that are there, the service that
each call stops, the id of the one it creates, the call that keeps the map locked, and the
services that have been stopped. -/
structure Registry where
  ids : List String
  registered : Table String Nat
  stops : List (Option Nat)
  creates : List (Option String)
  lockedBy : Option Nat
  returned : List Nat

namespace Registry

inductive Step (r : Registry) : Registry -> Prop where
  | rest : Step r r
  | call (stops : List (Option Nat)) :
      Step r { r with
        stops := r.stops ++ stops
        creates := r.creates ++ stops.map fun _ => none }
  | lock {n : Nat} (id : String) (restart : Option String) (holder : Option Nat) :
      r.lockedBy = none -> r.stops[n]? = some none -> r.creates[n]? = some none ->
      (forall id', restart = some id' -> id' = id ∧ holder = some n) ->
      Step r { r with
        registered := r.registered.erase id
        stops := r.stops.set n (r.registered.lookup id)
        creates := r.creates.set n restart
        lockedBy := holder }
  | stopped {n k : Nat} : r.stops[n]? = some (some k) ->
      Step r { r with stops := r.stops.set n none, returned := k :: r.returned }
  | created {n : Nat} {id : String} : r.creates[n]? = some (some id) ->
      (forall k, some k ∈ r.stops -> r.ids[k]? ≠ some id) ->
      Step r { r with
        ids := r.ids ++ [id]
        registered := r.registered.insert id r.ids.length
        creates := r.creates.set n none
        lockedBy := none }
  | released {n : Nat} {id : String} : r.creates[n]? = some (some id) ->
      Step r { r with creates := r.creates.set n none, lockedBy := none }

lemma Step.of_eq (h : r' = r) : Step r r' := by
  rw [h]
  exact .rest

/-- A service is in the map under its id, or it is being stopped or has been; a call that
creates a service keeps the map locked, with no service under this id in it. -/
structure Kept (r : Registry) : Prop where
  valid : forall {id k}, r.registered.lookup id = some k -> r.ids[k]? = some id
  accounted : forall {k : Nat} {id}, r.ids[k]? = some id ->
    r.registered.lookup id = some k ∨ some k ∈ r.stops ∨ k ∈ r.returned
  older : forall {j k : Nat} {id}, r.ids[j]? = some id -> r.ids[k]? = some id -> j < k ->
    j ∈ r.returned
  locked : forall {n : Nat} {id}, r.creates[n]? = some (some id) ->
    r.lockedBy = some n ∧ r.registered.lookup id = none

section Kept

lemma Kept.call (h : Kept r) (stops : List (Option Nat)) :
    Kept { r with
      stops := r.stops ++ stops
      creates := r.creates ++ stops.map fun _ => none } :=
  { h with
    accounted := fun hid => (h.accounted hid).imp_right (Or.imp_left (List.mem_append_left _))
    locked := by
      intro n id hn
      rcases Nat.lt_or_ge n r.creates.length with hlt | hge
      · exact h.locked ((List.getElem?_append_left hlt).symm.trans hn)
      · have hnew := (List.getElem?_append_right hge).symm.trans hn
        rw [List.getElem?_map] at hnew
        rcases Option.map_eq_some_iff.mp hnew with ⟨_, _, hnone⟩
        cases hnone }

variable {n : Nat} {id : String}

lemma Kept.lock (h : Kept r) (hfree : r.lockedBy = none) (hstops : r.stops[n]? = some none)
    (hcreates : r.creates[n]? = some none)
    (hrestart : forall id', restart = some id' -> id' = id ∧ holder = some n) : Kept { r with
      registered := r.registered.erase id
      stops := r.stops.set n (r.registered.lookup id)
      creates := r.creates.set n restart
      lockedBy := holder } where
  valid := by
    intro id' k hk
    rw [Table.lookup_erase_if] at hk
    split at hk
    · cases hk
    · exact h.valid hk
  accounted := by
    intro k id' hid
    rcases h.accounted hid with hmap | hrest
    · by_cases heq : id' = id
      · rw [heq] at hmap
        right
        left
        rw [← hmap]
        exact List.mem_iff_getElem?.mpr ⟨n, by rw [getElem?_set_if hstops, if_pos rfl]⟩
      · left
        rw [Table.lookup_erase_if, if_neg heq]
        exact hmap
    · cases hrest with
      | inr hreturned => exact Or.inr (Or.inr hreturned)
      | inl hmem =>
        rcases mem_set_of_mem hstops hmem with hnone | hkept
        · cases hnone
        · exact Or.inr (Or.inl hkept)
  older := h.older
  locked := by
    intro m id' hm
    rcases getElem?_set_cases hcreates hm with hnew | hold
    · rcases hrestart id' hnew.right.symm with ⟨heq, hholder⟩
      rw [hnew.left, heq, Table.lookup_erase_if, if_pos rfl]
      exact ⟨hholder, rfl⟩
    · have hlocked := (h.locked hold.right).left
      rw [hfree] at hlocked
      cases hlocked

lemma Kept.stopped (h : Kept r) (hstops : r.stops[n]? = some (some k)) :
    Kept { r with stops := r.stops.set n none, returned := k :: r.returned } :=
  { h with
    accounted := by
      intro j id hid
      rcases h.accounted hid with hmap | hrest
      · exact Or.inl hmap
      · right
        cases hrest with
        | inr hreturned => exact Or.inr (List.mem_cons_of_mem k hreturned)
        | inl hmem =>
          cases mem_set_of_mem hstops hmem with
          | inr hkept => exact Or.inl hkept
          | inl heq =>
            injection heq with heq
            exact Or.inr (List.mem_cons.mpr (Or.inl heq))
    older := fun hj hk hlt => List.mem_cons_of_mem k (h.older hj hk hlt) }

section

variable (h : Kept r) (hcreates : r.creates[n]? = some (some id))
include h hcreates

theorem Kept.no_other {m : Nat} : (r.creates.set n none)[m]? ≠ some (some id') := by
  intro hm
  rcases getElem?_set_cases hcreates hm with hnew | hold
  · cases hnew.right
  · have hlocked := (h.locked hcreates).left.symm.trans (h.locked hold.right).left
    injection hlocked with heq
    exact hold.left heq.symm

lemma Kept.released : Kept { r with creates := r.creates.set n none, lockedBy := none } :=
  { h with locked := fun hm => absurd hm (h.no_other hcreates) }

theorem Kept.all_returned (hstops : forall k, some k ∈ r.stops -> r.ids[k]? ≠ some id)
    (hk : r.ids[k]? = some id) : k ∈ r.returned := by
  rcases h.accounted hk with hmap | hrest
  · rw [(h.locked hcreates).right] at hmap
    cases hmap
  · rcases hrest with hmem | hreturned
    · exact absurd hk (hstops k hmem)
    · exact hreturned

lemma Kept.created (hstops : forall k, some k ∈ r.stops -> r.ids[k]? ≠ some id) : Kept { r with
      ids := r.ids ++ [id]
      registered := r.registered.insert id r.ids.length
      creates := r.creates.set n none
      lockedBy := none } where
  valid := by
    intro id' k hk
    rw [Table.lookup_insert_if] at hk
    split at hk
    · next heq =>
      injection hk with hk
      rw [← hk, heq]
      exact List.getElem?_concat_length
    · have hold := h.valid hk
      exact (List.getElem?_append_left (List.getElem?_eq_some_iff.mp hold).1).trans hold
  accounted := by
    intro k id' hk
    rw [Table.lookup_insert_if]
    rw [getElem?_concat_if] at hk
    split at hk
    · next heq =>
      injection hk with hid
      rw [if_pos hid.symm, heq]
      exact Or.inl rfl
    · split
      · next hid =>
        rw [hid] at hk
        exact Or.inr (Or.inr (h.all_returned hcreates hstops hk))
      · exact h.accounted hk
  older := by
    intro j k id' hj hk hlt
    rw [getElem?_concat_if] at hj hk
    split at hk
    · next hlast =>
      injection hk with hid
      rw [if_neg (Nat.ne_of_lt (hlast ▸ hlt)), ← hid] at hj
      exact h.all_returned hcreates hstops hj
    · have hlen := (List.getElem?_eq_some_iff.mp hk).1
      rw [if_neg (Nat.ne_of_lt (Nat.lt_trans hlt hlen))] at hj
      exact h.older hj hk hlt
  locked := fun hm => absurd hm (h.no_other hcreates)

end

lemma Kept.step (h : Kept r) (hstep : Step r r') : Kept r' := by
  cases hstep with
  | rest => exact h
  | call stops => exact h.call stops
  | lock id restart holder hfree hstops hcreates hrestart =>
    exact h.lock hfree hstops hcreates hrestart
  | stopped hstops => exact h.stopped hstops
  | created hcreates hstops => exact h.created hcreates hstops
  | released hcreates => exact h.released hcreates

end Kept

end Registry

end Eva4.Launcher
