import Mathlib.Order.Lattice

/-!
# Registers that take newer writes

A register takes a write only if its key is greater than the key of what it holds.  A
write may keep a part of the old contents.  Whatever the order of the writes and however
often they are repeated, the last one taken is the one with the greatest key.
-/

namespace Eva4.Lib

structure Register (S E K : Type) where
  key : S -> K
  writeKey : E -> K
  write : S -> E -> S
  key_write : forall s e, key (write s e) = writeKey e

namespace Register

variable {S E K : Type} [LinearOrder K]

def accept (r : Register S E K) (s : S) (e : E) : S :=
  if r.key s < r.writeKey e then r.write s e else s

def accepts (r : Register S E K) (s : S) (es : List E) : S :=
  es.foldl r.accept s

variable {r : Register S E K}

lemma accept_of_lt (h : r.key s < r.writeKey e) : r.accept s e = r.write s e :=
  if_pos h

lemma accept_of_le (h : r.writeKey e ≤ r.key s) : r.accept s e = s :=
  if_neg (not_lt_of_ge h)

lemma accepts_of_le (h : forall e, e ∈ es -> r.writeKey e ≤ r.key s) : r.accepts s es = s := by
  induction es with
  | nil => rfl
  | cons e es ih =>
    show r.accepts (r.accept s e) es = s
    rw [accept_of_le (h e List.mem_cons_self)]
    exact ih fun e' he' => h e' (List.mem_cons_of_mem e he')

theorem accepts_greatest (hmem : e ∈ es) (hnew : r.key s < r.writeKey e)
    (hgreatest : forall e', e' ∈ es -> r.writeKey e' ≤ r.writeKey e)
    (hdistinct : forall e', e' ∈ es -> r.writeKey e' = r.writeKey e -> e' = e) :
    exists s', r.accepts s es = r.write s' e := by
  induction es generalizing s with
  | nil => cases hmem
  | cons x es ih =>
    show exists s', r.accepts (r.accept s x) es = r.write s' e
    have htail : forall e', e' ∈ es -> r.writeKey e' ≤ r.writeKey e :=
      fun e' he' => hgreatest e' (List.mem_cons_of_mem x he')
    by_cases hx : x = e
    · refine ⟨s, ?_⟩
      rw [hx, accept_of_lt hnew]
      apply accepts_of_le
      rw [r.key_write]
      exact htail
    · have hlt : r.writeKey x < r.writeKey e :=
        lt_of_le_of_ne (hgreatest x List.mem_cons_self)
          fun heq => hx (hdistinct x List.mem_cons_self heq)
      have hrest : e ∈ es := (List.mem_cons.mp hmem).resolve_left fun he => hx he.symm
      apply ih hrest _ htail fun e' he' => hdistinct e' (List.mem_cons_of_mem x he')
      -- the register holds the old contents or those of the smaller write
      unfold accept
      split
      · rw [r.key_write]
        exact hlt
      · exact hnew

end Register

end Eva4.Lib
