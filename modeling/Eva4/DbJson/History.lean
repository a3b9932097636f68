import Eva4.Lib.Rows
import Eva4.Lib.Table
import Eva4.Items.Basic

/-!
# State history as JSON

The states of items are stored in PostgreSQL by functions of the database, one state at a time or
a batch of them.  A statement that fails leaves the database as it was.
-/

namespace Eva4.DbJson

open Lib
open Items (Error EResult F64 OID)

structure ItemState (V : Type) where
  oid : OID
  setTime : F64
  status : Int
  value : V

structure Env (V N T J : Type) where
  toJson : V -> Option J
  /-- The integer part of a time, as a number of the machine. -/
  truncSecs : F64 -> Int
  /-- The fractional part in nanoseconds, as a number of the machine. -/
  fractNanos : F64 -> Nat
  fromTimestamp : Int -> Nat -> Option N
  /-- A time as the database stores it. -/
  timestamp : N -> T
  acceptsOid : String -> Bool
  acceptsValue : J -> Bool
  sqlError : Error

variable {V N T J : Type}

/-!
## The database
-/

/-- OIDs get their ids in the order in which they are first stored. -/
structure OidTable (acceptsOid : String -> Bool) where
  ids : Table String Nat
  next : Nat
  below : forall oid id, ids.lookup oid = some id -> id < next
  injective : forall oid oid' id, ids.lookup oid = some id -> ids.lookup oid' = some id ->
    oid = oid'
  accepted : forall oid id, ids.lookup oid = some id -> acceptsOid oid = true

namespace OidTable

variable {acceptsOid : String -> Bool} (o : OidTable acceptsOid)

def add (oid : String) (hacc : acceptsOid oid = true) : OidTable acceptsOid where
  ids := o.ids.insert oid o.next
  next := o.next + 1
  below := by
    apply Table.forall_insert
    · exact fun x id hid => Nat.lt_succ_of_lt (o.below x id hid)
    · exact Nat.lt_succ_self o.next
  injective := by
    intro x y id hx hy
    rw [Table.lookup_insert_if] at hx hy
    split at hx
    · next hxo =>
      split at hy
      · next hyo => rw [hxo, hyo]
      · have hid := o.below y id hy
        cases hx
        exact absurd hid (Nat.lt_irrefl _)
    · split at hy
      · have hid := o.below x id hx
        cases hy
        exact absurd hid (Nat.lt_irrefl _)
      · exact o.injective x y id hx hy
  accepted := by
    apply Table.forall_insert
    · exact fun x id hid => o.accepted x id hid
    · exact hacc

structure Assigned where
  id : Nat
  oids : OidTable acceptsOid
  le : o.next <= oids.next
  below : id < oids.next

def getId (oid : String) : Option (Assigned o) :=
  match h : o.ids.lookup oid with
  | some id => some { id := id, oids := o, le := Nat.le_refl _, below := o.below oid id h }
  | none =>
    if hacc : acceptsOid oid = true then
      some {
        id := o.next
        oids := o.add oid hacc
        le := Nat.le_succ o.next
        below := Nat.lt_succ_self o.next }
    else none

end OidTable

structure Entry (J : Type) where
  status : Int
  value : J

structure Row (T J : Type) where
  t : T
  oid : String
  entry : Entry J

structure Db (T J : Type) (acceptsOid : String -> Bool) where
  oids : OidTable acceptsOid
  events : Rows (T × Nat) (Entry J)
  foreign : forall t id, events (t, id) ≠ none -> id < oids.next

structure Resolved (T J : Type) {acceptsOid : String -> Bool} (o : OidTable acceptsOid) where
  keyed : List ((T × Nat) × Entry J)
  oids : OidTable acceptsOid
  le : o.next <= oids.next
  below : forall row, row ∈ keyed -> row.1.2 < oids.next

section Insert

variable {acceptsOid : String -> Bool}

def resolve (o : OidTable acceptsOid) : List (Row T J) -> Option (Resolved T J o)
  | [] => some { keyed := [], oids := o, le := Nat.le_refl _, below := nofun }
  | row :: rows => do
    let first <- o.getId row.oid
    let rest <- resolve first.oids rows
    some {
      keyed := ((row.t, first.id), row.entry) :: rest.keyed
      oids := rest.oids
      le := Nat.le_trans first.le rest.le
      below := List.forall_mem_cons.mpr ⟨Nat.lt_of_lt_of_le first.below rest.le, rest.below⟩ }

variable [DecidableEq T]

lemma putAll_foreign (hkeyed : forall row, row ∈ keyed -> row.1.2 < n)
    {events : Rows (T × Nat) (Entry J)} (h : forall t id, events (t, id) ≠ none -> id < n) :
    forall t id, events.putAll c keyed (t, id) ≠ none -> id < n := by
  induction keyed generalizing events with
  | nil => exact h
  | cons row rows ih =>
    rcases List.forall_mem_cons.mp hkeyed with ⟨hrow, hrows⟩
    have hput : forall t id, events.put c row.1 row.2 (t, id) ≠ none -> id < n := by
      intro t id hsome
      by_cases heq : (t, id) = row.1
      · rw [← heq] at hrow
        exact hrow
      · rw [Rows.put_other heq] at hsome
        exact h t id hsome
    exact ih hrows hput

def Db.store (c : OnConflict) (db : Db T J acceptsOid) (resolved : Resolved T J db.oids) :
    Db T J acceptsOid where
  oids := resolved.oids
  events := db.events.putAll c resolved.keyed
  foreign := putAll_foreign resolved.below fun t id h =>
    Nat.lt_of_lt_of_le (db.foreign t id h) resolved.le

/-- One statement, which fails as a whole.  A row that would replace another row of the same
statement is an error. -/
def insertEvents (acceptsValue : J -> Bool) (c : OnConflict) (rows : List (Row T J))
    (db : Db T J acceptsOid) : Option (Db T J acceptsOid) := do
  if rows.all fun row => acceptsValue row.entry.value then
    let resolved <- resolve db.oids rows
    if c = .replace ∧ ¬ (resolved.keyed.map Prod.fst).Nodup then none
    else some (db.store c resolved)
  else none

end Insert

/-!
## Submitting
-/

section Submit

variable [DecidableEq T] (env : Env V N T J)

def tsToNaive (ts : F64) : EResult N :=
  match env.fromTimestamp (env.truncSecs ts) (env.fractNanos ts) with
  | some t => .ok t
  | none => .error { kind := .invalidData, message := "unable to convert timestamp" }

/-- The row of a state; values without JSON are skipped. -/
def toRow (state : ItemState V) : EResult (Option (Row T J)) :=
  match env.toJson state.value with
  | none => .ok none
  | some value => do
    let t <- tsToNaive env state.setTime
    .ok (some {
      t := env.timestamp t
      oid := state.oid.asStr
      entry := { status := state.status, value := value } })

def execute (c : OnConflict) (rows : List (Row T J)) (db : Db T J env.acceptsOid) :
    EResult (Db T J env.acceptsOid) :=
  match insertEvents env.acceptsValue c rows db with
  | some db' => .ok db'
  | none => .error env.sqlError

def submit (state : ItemState V) (db : Db T J env.acceptsOid) :
    EResult (Db T J env.acceptsOid) := do
  match <- toRow env state with
  | some row => execute env .replace [row] db
  | none => .ok db

def toRows : List (ItemState V) -> EResult (List (Row T J))
  | [] => .ok []
  | state :: states => do
    let row <- toRow env state
    let rows <- toRows states
    .ok (row.toList ++ rows)

def submitBulk (states : List (ItemState V)) (replace : Bool) (db : Db T J env.acceptsOid) :
    EResult (Db T J env.acceptsOid) := do
  if states.isEmpty then .ok db
  else
    let rows <- toRows env states
    if rows.isEmpty then .ok db
    else execute env (if replace then .replace else .keep) rows db

/-- The database after a submission: one that fails leaves it as it was. -/
def after (submission : Db T J env.acceptsOid -> EResult (Db T J env.acceptsOid))
    (db : Db T J env.acceptsOid) : Db T J env.acceptsOid :=
  match submission db with
  | .ok db' => db'
  | .error _ => db

def submitEach (states : List (ItemState V)) (db : Db T J env.acceptsOid) : Db T J env.acceptsOid :=
  states.foldl (fun db state => after env (submit env state) db) db

end Submit

/-!
## Ids
-/

section Ids

variable {acceptsOid : String -> Bool}

section

variable (o : OidTable acceptsOid)

lemma OidTable.getId_accepted (h : acceptsOid oid = true) :
    exists first, o.getId oid = some first := by
  unfold OidTable.getId
  split
  · exact ⟨_, rfl⟩
  · rw [dif_pos h]
    exact ⟨_, rfl⟩

lemma OidTable.getId_refused (h : acceptsOid oid = false) : o.getId oid = none := by
  have hnot : ¬ acceptsOid oid = true := by
    rw [h]
    exact Bool.false_ne_true
  unfold OidTable.getId
  split
  · next id hid => exact absurd (o.accepted oid id hid) hnot
  · rw [dif_neg hnot]

/-- The table after an OID was looked up: it has the id, and others have the ids they had. -/
structure Assigns (oid : String) (first : OidTable.Assigned o) : Prop where
  same : first.oids.ids.lookup oid = some first.id
  other : forall x, x ≠ oid -> first.oids.ids.lookup x = o.ids.lookup x
  old : forall id, o.ids.lookup oid = some id -> first.id = id
  new : o.ids.lookup oid = none -> first.id = o.next

end

lemma OidTable.assigns {first : OidTable.Assigned o} (h : o.getId oid = some first) :
    Assigns o oid first := by
  unfold OidTable.getId at h
  split at h
  · next id hid =>
    cases h
    exact ⟨hid, fun _ _ => rfl, fun other hother => Option.some.inj (hid.symm.trans hother),
      fun hnone => by rw [hid] at hnone; cases hnone⟩
  · next hnone =>
    split at h
    · next hacc =>
      cases h
      constructor
      · exact (Table.lookup_insert_if ..).trans (if_pos rfl)
      · intro x hx
        exact (Table.lookup_insert_if ..).trans (if_neg hx)
      · intro id hid
        rw [hnone] at hid
        cases hid
      · exact fun _ => rfl
    · cases h

end Ids

end Eva4.DbJson
