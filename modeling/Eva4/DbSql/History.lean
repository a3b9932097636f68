import Mathlib.Algebra.Group.Nat.Defs
import Eva4.Lib.Dialog
import Eva4.DbJson.History

/-!
# State history in SQL databases

States are stored in one table, in SQLite or in PostgreSQL, one state at a time or a batch of
them.  For PostgreSQL a batch is one statement with its values as literals, for SQLite it is a
transaction.
-/

namespace Eva4.DbSql

open Lib
open Items (Error EResult F64 OID)
open DbJson (ItemState)

inductive DbKind where
  | sqlite
  | postgres
deriving DecidableEq

/-- On a conflict SQLite replaces the row and PostgreSQL does nothing. -/
def DbKind.conflict : DbKind -> OnConflict
  | sqlite => .replace
  | postgres => .keep

structure Record where
  status : Int
  value : Option String
deriving DecidableEq

abbrev Key : Type :=
  Int × String

abbrev History : Type :=
  Rows Key Record

structure Env (V : Type) where
  tsToNs : F64 -> Nat
  toStringOrPack : V -> EResult String
  /-- A text as it is stored in a column of a width, unless it is refused. -/
  varchar : Nat -> String -> Option String
  sqlError : Error

variable {V : Type}

abbrev Outcome : Type :=
  EResult Unit × History

/-!
## Literals
-/

def safeSqlString (s : String) : EResult String :=
  if '\'' ∈ s.toList then
    .error { kind := .invalidData, message := "unsupported quote in SQL string" }
  else .ok s

def quote (s : String) : List Char :=
  '\'' :: (s.toList ++ ['\''])

/-- The string up to the quote that ends it; within the string a quote is written twice. -/
def readQuoted : List Char -> Option (List Char)
  | [] => none
  | [c] => if c = '\'' then some [] else none
  | c :: d :: text =>
    if c ≠ '\'' then (readQuoted (d :: text)).map (c :: ·)
    else if d = '\'' then (readQuoted text).map (d :: ·)
    else none

def readLiteral (text : List Char) : Option (Option String) :=
  if text = "NULL".toList then some none
  else
    match text with
    | '\'' :: rest => (readQuoted rest).map fun s => some (String.ofList s)
    | _ => none

lemma safeSqlString_ok (h : safeSqlString s = .ok s') : s' = s ∧ '\'' ∉ s.toList := by
  unfold safeSqlString at h
  split at h
  · cases h
  · next hsafe => exact ⟨(Except.ok.inj h).symm, hsafe⟩

lemma readQuoted_append (h : '\'' ∉ s) : readQuoted (s ++ ['\'']) = some s := by
  induction s with
  | nil => rfl
  | cons c s ih =>
    rcases not_or.mp (mt List.mem_cons.mpr h) with ⟨hc, hs⟩
    have hread := ih hs
    cases s with
    | nil => rw [List.cons_append, List.nil_append, readQuoted, if_pos (Ne.symm hc)]; rfl
    | cons d s =>
      rw [List.cons_append] at hread ⊢
      rw [List.cons_append, readQuoted, if_pos (Ne.symm hc), hread]
      rfl

lemma readLiteral_quote (h : '\'' ∉ s.toList) : readLiteral (quote s) = some (some s) := by
  change (readQuoted (s.toList ++ ['\''])).map _ = _
  rw [readQuoted_append h, Option.map_some, String.ofList_toList]

/-!
## Statements
-/

section Model

variable (env : Env V)

def valueText (v : V) : String :=
  match env.toStringOrPack v with
  | .ok s => s
  | .error _ => ""

/-- A row for columns BIGINT, VARCHAR(256), INTEGER and VARCHAR(8192) of PostgreSQL. -/
def pgRow (t : Nat) (oid : String) (status : Int) (value : Option String) : Option (Key × Record) :=
  if t < 2 ^ 63 then do
    let oid <- env.varchar 256 oid
    match value with
    | none => some ((t, oid), { status := status, value := none })
    | some value =>
      let value <- env.varchar 8192 value
      some ((t, oid), { status := status, value := some value })
  else none

variable (kind : DbKind)

section

variable (state : ItemState (Option V))

def insertRow : EResult (Key × Record) :=
  let t := env.tsToNs state.setTime
  let value := state.value.map (valueText env)
  if t < 2 ^ 63 then
    match kind with
    | .sqlite => .ok ((t, state.oid.asStr), { status := state.status, value := value })
    | .postgres =>
      match pgRow env t state.oid.asStr state.status value with
      | some row => .ok row
      | none => .error env.sqlError
  else .error { kind := .failed, message := "out of range integral type conversion attempted" }

def submit (table : History) : Outcome :=
  match insertRow env kind state with
  | .ok row => (.ok (), table.put kind.conflict row.1 row.2)
  | .error e => (.error e, table)

structure Literals where
  t : Nat
  oid : List Char
  status : Int
  value : List Char

def writeValue : Option V -> EResult (List Char)
  | some v => do
    let text <- safeSqlString (valueText env v)
    .ok (quote text)
  | none => .ok "NULL".toList

def writeState : EResult Literals := do
  let oid <- safeSqlString state.oid.asStr
  let value <- writeValue env state.value
  .ok { t := env.tsToNs state.setTime, oid := quote oid, status := state.status, value := value }

end

def Literals.row (l : Literals) : Option (Key × Record) := do
  let oid <- (<- readLiteral l.oid)
  let value <- readLiteral l.value
  pgRow env l.t oid l.status value

def insertAll (kind : DbKind) : List (ItemState (Option V)) -> History -> Outcome
  | [], tx => (.ok (), tx)
  | state :: states, tx =>
    match submit env kind state tx with
    | (.ok (), tx') => insertAll kind states tx'
    | (.error e, tx') => (.error e, tx')

def submitBulk (states : List (ItemState (Option V))) (table : History) : Outcome :=
  if states.isEmpty then (.ok (), table)
  else
    match kind with
    | .postgres =>
      match states.mapM (writeState env) with
      | .ok literals =>
        match literals.mapM (Literals.row env) with
        | some rows => (.ok (), table.putAll .keep rows)
        | none => (.error env.sqlError, table)
      | .error e => (.error e, table)
    | .sqlite =>
      match insertAll env kind states table with
      | (.ok (), tx) => (.ok (), tx)
      -- the transaction is dropped without a commit
      | (.error e, _) => (.error e, table)

inductive Event (V : Type) where
  | state (state : ItemState (Option V))
  | bulkState (states : List (ItemState (Option V)))

def Event.states : Event V -> List (ItemState (Option V))
  | state v => [v]
  | bulkState v => v

def notify (event : Event V) (table : History) : Outcome :=
  match event with
  | .state v => submit env kind v table
  | .bulkState v => submitBulk env kind v table

def run (events : List (Event V)) (table : History) : History :=
  events.foldl (fun table event => (notify env kind event table).2) table

def submitEach (states : List (ItemState (Option V))) (table : History) : History :=
  states.foldl (fun table state => (submit env kind state table).2) table

end Model

/-!
## What is stored
-/

section Stored

variable {env : Env V} {kind : DbKind} {state : ItemState (Option V)}
  {states : List (ItemState (Option V))}

def stored (env : Env V) (kind : DbKind) (state : ItemState (Option V)) : Option (Key × Record) :=
  (insertRow env kind state).toOption

lemma submit_stored (h : stored env kind state = some row) (table : History) :
    submit env kind state table = (.ok (), table.put kind.conflict row.1 row.2) := by
  unfold submit
  unfold stored at h
  cases hrow : insertRow env kind state with
  | error e => rw [hrow] at h; cases h
  | ok row' =>
    rw [hrow] at h
    rw [Option.some.inj h]

lemma submit_refused (h : stored env kind state = none) :
    exists e, submit env kind state table = (.error e, table) := by
  unfold submit
  unfold stored at h
  cases hrow : insertRow env kind state with
  | error e => exact ⟨e, rfl⟩
  | ok row => rw [hrow] at h; cases h

lemma submitEach_eq :
    submitEach env kind states table =
      table.putAll kind.conflict (states.filterMap (stored env kind)) := by
  induction states generalizing table with
  | nil => rfl
  | cons state states ih =>
    change submitEach env kind states (submit env kind state table).2 = _
    rw [ih]
    cases hstored : stored env kind state with
    | none =>
      rcases submit_refused hstored with ⟨e, he⟩
      rw [he, List.filterMap_cons_none hstored]
    | some row => rw [submit_stored hstored, List.filterMap_cons_some hstored]; rfl

lemma mapM_stored_iff : states.mapM (stored env kind) = some rows <->
      (forall state, state ∈ states -> stored env kind state ≠ none) ∧
        states.filterMap (stored env kind) = rows := by
  induction states generalizing rows with
  | nil => simp [eq_comm]
  | cons state states ih =>
    rw [List.mapM_cons]
    cases hstored : stored env kind state with
    | none => simp [hstored]
    | some row =>
      cases hrest : states.mapM (stored env kind) with
      | none =>
        have hnot : ¬ forall state, state ∈ states -> stored env kind state ≠ none :=
          fun hall => Option.some_ne_none _ ((ih.mpr ⟨hall, rfl⟩).symm.trans hrest)
        simp [hstored, hnot]
      | some rest =>
        rcases ih.mp hrest with ⟨hall, hrows⟩
        rw [List.filterMap_cons_some hstored, hrows]
        simp only [List.forall_mem_cons, hstored]
        exact ⟨fun h => ⟨⟨Option.some_ne_none _, hall⟩, Option.some.inj h⟩,
          fun h => congrArg some h.right⟩

/-!
## Batches
-/

lemma insertAll_stored (h : forall state, state ∈ states -> stored env kind state ≠ none)
    (tx : History) : insertAll env kind states tx =
      (.ok (), tx.putAll kind.conflict (states.filterMap (stored env kind))) := by
  induction states generalizing tx with
  | nil => rfl
  | cons state states ih =>
    rcases List.forall_mem_cons.mp h with ⟨hstate, hstates⟩
    rcases Option.ne_none_iff_exists'.mp hstate with ⟨row, hrow⟩
    rw [insertAll, submit_stored hrow, List.filterMap_cons_some hrow]
    exact ih hstates _

lemma insertAll_refused (h : ¬ forall state, state ∈ states -> stored env kind state ≠ none) :
    exists e tx', insertAll env kind states tx = (.error e, tx') := by
  induction states generalizing tx with
  | nil => exact absurd nofun h
  | cons state states ih =>
    rw [insertAll]
    cases hstored : stored env kind state with
    | none =>
      rcases submit_refused hstored with ⟨e, he⟩
      rw [he]
      exact ⟨e, tx, rfl⟩
    | some row =>
      rw [submit_stored hstored]
      apply ih
      intro hall
      apply h
      rw [List.forall_mem_cons, hstored]
      exact ⟨Option.some_ne_none row, hall⟩

lemma stored_postgres :
    stored env .postgres state = pgRow env (env.tsToNs state.setTime) state.oid.asStr
      state.status (state.value.map (valueText env)) := by
  unfold stored insertRow
  dsimp only
  split
  · cases pgRow env (env.tsToNs state.setTime) state.oid.asStr state.status
        (state.value.map (valueText env)) with
    | none => rfl
    | some row => rfl
  · next hrange => rw [pgRow, if_neg hrange]; rfl

/-- What is read from the literals of a state is what is bound to a single statement. -/
theorem row_of_writeState (h : writeState env state = .ok l) :
    l.row env = stored env .postgres state := by
  rcases exists_of_bind_ok h with ⟨oid, hoid, h⟩
  rcases exists_of_bind_ok h with ⟨value, hvalue, h⟩
  rcases safeSqlString_ok hoid with ⟨heq, hsafe⟩
  have hread : readLiteral value = some (state.value.map (valueText env)) := by
    cases hv : state.value with
    | none =>
      rw [hv] at hvalue
      cases hvalue
      rfl
    | some v =>
      rw [hv] at hvalue
      rcases exists_of_bind_ok hvalue with ⟨text, htext, hvalue⟩
      rcases safeSqlString_ok htext with ⟨hsame, hplain⟩
      rw [← Except.ok.inj hvalue, hsame]
      exact readLiteral_quote hplain
  rw [← Except.ok.inj h, heq, stored_postgres]
  unfold Literals.row
  rw [readLiteral_quote hsafe, hread]
  rfl

lemma mapM_row (h : states.mapM (writeState env) = .ok literals) :
    literals.mapM (Literals.row env) = states.mapM (stored env .postgres) := by
  induction states generalizing literals with
  | nil =>
    cases h
    rfl
  | cons state states ih =>
    rw [List.mapM_cons] at h
    rcases exists_of_bind_ok h with ⟨l, hl, h⟩
    rcases exists_of_bind_ok h with ⟨rest, hrest, h⟩
    rw [← Except.ok.inj h, List.mapM_cons, List.mapM_cons, row_of_writeState hl, ih hrest]

theorem submitBulk_cases :
    submitBulk env kind states table =
        (.ok (), table.putAll kind.conflict (states.filterMap (stored env kind))) ∨
      exists e, submitBulk env kind states table = (.error e, table) := by
  unfold submitBulk
  cases states with
  | nil => exact Or.inl rfl
  | cons state states =>
    rw [List.isEmpty_cons, if_neg Bool.false_ne_true]
    generalize state :: states = all
    cases kind with
    | sqlite =>
      by_cases hall : forall state, state ∈ all -> stored env .sqlite state ≠ none
      · rw [insertAll_stored hall]; exact Or.inl rfl
      · rcases insertAll_refused hall with ⟨e, tx, he⟩
        rw [he]
        exact Or.inr ⟨e, rfl⟩
    | postgres =>
      cases hwrite : all.mapM (writeState env) with
      | error e => exact Or.inr ⟨e, rfl⟩
      | ok literals =>
        dsimp only
        rw [mapM_row hwrite]
        cases hrows : all.mapM (stored env .postgres) with
        | none => exact Or.inr ⟨env.sqlError, rfl⟩
        | some rows => rw [(mapM_stored_iff.mp hrows).right]; exact Or.inl rfl

structure Quotefree (env : Env V) (state : ItemState (Option V)) : Prop where
  oid : '\'' ∉ state.oid.asStr.toList
  value : forall v, state.value = some v -> '\'' ∉ (valueText env v).toList

lemma Quotefree.writeState (h : Quotefree env state) : exists l, writeState env state = .ok l := by
  unfold DbSql.writeState
  rw [safeSqlString, if_neg h.oid]
  cases hv : state.value with
  | none => exact ⟨_, rfl⟩
  | some v =>
    rw [writeValue, safeSqlString, if_neg (h.value v hv)]
    exact ⟨_, rfl⟩

lemma mapM_writeState (h : forall state, state ∈ states -> Quotefree env state) :
    exists literals, states.mapM (writeState env) = .ok literals := by
  induction states with
  | nil => exact ⟨[], rfl⟩
  | cons state states ih =>
    rcases List.forall_mem_cons.mp h with ⟨hstate, hstates⟩
    rcases hstate.writeState with ⟨l, hl⟩
    rcases ih hstates with ⟨rest, hrest⟩
    rw [List.mapM_cons, hl, hrest]
    exact ⟨_, rfl⟩

lemma submitBulk_stored (hstored : forall state, state ∈ states -> stored env kind state ≠ none)
    (hquotes : kind = .postgres -> forall state, state ∈ states -> Quotefree env state) :
    submitBulk env kind states table =
      (.ok (), table.putAll kind.conflict (states.filterMap (stored env kind))) := by
  unfold submitBulk
  cases states with
  | nil => rfl
  | cons state states =>
    rw [List.isEmpty_cons, if_neg Bool.false_ne_true]
    cases kind with
    | sqlite => rw [insertAll_stored hstored]
    | postgres =>
      rcases mapM_writeState (hquotes rfl) with ⟨literals, hliterals⟩
      rw [hliterals]
      dsimp only
      rw [mapM_row hliterals, mapM_stored_iff.mpr ⟨hstored, rfl⟩]
      rfl

/-!
## Both databases
-/

/-- The time is in range, and PostgreSQL stores the texts as they are. -/
structure Unchanged (env : Env V) (state : ItemState (Option V)) : Prop where
  time : env.tsToNs state.setTime < 2 ^ 63
  oid : env.varchar 256 state.oid.asStr = some state.oid.asStr
  value : forall v, state.value = some v ->
    env.varchar 8192 (valueText env v) = some (valueText env v)

def row (env : Env V) (state : ItemState (Option V)) : Key × Record :=
  ((env.tsToNs state.setTime, state.oid.asStr),
    { status := state.status, value := state.value.map (valueText env) })

lemma Unchanged.stored (h : Unchanged env state) (kind : DbKind) :
    stored env kind state = some (row env state) := by
  cases kind with
  | sqlite =>
    unfold DbSql.stored insertRow
    rw [if_pos h.time]
    rfl
  | postgres =>
    rw [stored_postgres, pgRow, if_pos h.time, h.oid, row]
    cases hv : state.value with
    | none => rfl
    | some v =>
      rw [Option.map_some, Option.bind_eq_bind, Option.bind_some]
      dsimp only
      rw [h.value v hv]
      rfl

lemma notify_rows (h : forall state, state ∈ event.states ->
      Unchanged env state ∧ Quotefree env state) :
    (notify env kind event table).2 = table.putAll kind.conflict (event.states.map (row env)) := by
  cases event with
  | state v =>
    have hstored := (h v (List.mem_singleton.mpr rfl)).left.stored kind
    change (submit env kind v table).2 = _
    rw [submit_stored hstored]
    rfl
  | bulkState v =>
    have hrows : v.filterMap (stored env kind) = v.map (row env) :=
      (List.filterMap_congr fun state hstate => (h state hstate).left.stored kind).trans
        (congrFun List.filterMap_eq_map v)
    change (submitBulk env kind v table).2 = _
    rw [submitBulk_stored, hrows]
    · rfl
    · intro state hstate
      rw [(h state hstate).left.stored kind]
      exact Option.some_ne_none _
    · exact fun _ state hstate => (h state hstate).right

def rows (env : Env V) (events : List (Event V)) : List (Key × Record) :=
  events.flatMap fun event => event.states.map (row env)

lemma run_rows (kind : DbKind) (h : forall event, event ∈ events ->
      forall state, state ∈ event.states -> Unchanged env state ∧ Quotefree env state)
    (table : History) :
    run env kind events table = table.putAll kind.conflict (rows env events) := by
  induction events generalizing table with
  | nil => rfl
  | cons event events ih =>
    rcases List.forall_mem_cons.mp h with ⟨hevent, hevents⟩
    change run env kind events (notify env kind event table).2 = _
    rw [ih hevents, notify_rows hevent, ← Rows.putAll_append]
    rfl

/-- A batch is stored as its states one by one, or refused as a whole; it is stored if each of
its states is and, in PostgreSQL, no text has a quote.  The databases store the same rows and
differ only in which one of a key is left. -/
theorem bulk_as_single_or_refused (env : Env V) : (forall kind states table,
      submitBulk env kind states table = (.ok (), submitEach env kind states table) ∨
        exists e, submitBulk env kind states table = (.error e, table)) ∧ (forall kind states table,
      (forall state, state ∈ states -> (submit env kind state table).1 = .ok ()) ->
      (kind = .postgres -> forall state, state ∈ states -> Quotefree env state) ->
      (submitBulk env kind states table).1 = .ok ()) ∧
    forall (events : List (Event V)) (table : History),
      (forall event, event ∈ events -> forall state, state ∈ event.states ->
        Unchanged env state ∧ Quotefree env state) ->
      run env .sqlite events table = table.putAll .replace (rows env events) ∧
      run env .postgres events table = table.putAll .keep (rows env events) ∧
      (table.Agree (rows env events) ->
        run env .sqlite events table = run env .postgres events table) := by
  refine ⟨?_, ?_, ?_⟩
  · intro kind states table
    rw [submitEach_eq]
    exact submitBulk_cases
  · intro kind states table hsubmit hquotes
    rw [submitBulk_stored ?_ hquotes]
    intro state hstate hnone
    rcases submit_refused hnone with ⟨e, he⟩
    have hok := hsubmit state hstate
    rw [he] at hok
    cases hok
  · intro events table h
    have hsqlite := run_rows .sqlite h table
    have hpostgres := run_rows .postgres h table
    refine ⟨hsqlite, hpostgres, ?_⟩
    intro hagree
    rw [hsqlite, hpostgres]
    exact Rows.putAll_agree hagree

def sampleEnv : Env String where
  tsToNs
    | .fin x => x.floor.toNat * 1000000000
    | _ => 0
  toStringOrPack := .ok
  varchar := fun n s => if s.length <= n then some s else none
  sqlError := { kind := .failed, message := "database error" }

def sampleState (id : String) (value : String) : ItemState (Option String) :=
  { oid := ⟨.sensor, id⟩, setTime := .fin 1700000000, status := 1, value := some value }

def sampleBatch : List (ItemState (Option String)) :=
  [sampleState "b" "x", sampleState "c" "y", sampleState "b" "x"]

def sampleHistory : History :=
  fun key => if key = (1700000000000000000, "sensor:b") then some { status := 1, value := some "x" }
    else none

lemma sampleBatch_unchanged {state : ItemState (Option String)} (h : state ∈ sampleBatch) :
    Unchanged sampleEnv state ∧ Quotefree sampleEnv state := by
  simp only [sampleBatch, List.mem_cons, List.not_mem_nil, or_false] at h
  rcases h with rfl | rfl | rfl <;>
    exact ⟨⟨by decide +kernel, by decide +kernel, fun v hv => by cases hv; decide +kernel⟩,
      by decide +kernel, fun v hv => by cases hv; decide +kernel⟩

theorem same_batch_stored_by_both :
    (submitBulk sampleEnv .postgres sampleBatch sampleHistory).1 = .ok () ∧
      run sampleEnv .sqlite [.bulkState sampleBatch] sampleHistory =
        run sampleEnv .postgres [.bulkState sampleBatch] sampleHistory := by
  rcases bulk_as_single_or_refused sampleEnv with ⟨_, hbulk, hrun⟩
  constructor
  · apply hbulk
    · decide +kernel
    · exact fun _ state hstate => (sampleBatch_unchanged hstate).right
  · apply (hrun _ _ _).right.right
    · constructor
      · decide +kernel
      · decide +kernel
    · intro event hevent state hstate
      rw [List.mem_singleton.mp hevent] at hstate
      exact sampleBatch_unchanged hstate

/-- A quote in one state makes PostgreSQL lose another state of the batch, and of two states of
an OID at one time the databases have different ones. -/
theorem quoted_batch_lost_and_engines_differ :
    (submitBulk sampleEnv .postgres [sampleState "a" "it's", sampleState "b" "x"]
        (fun _ => none)).2 (1700000000000000000, "sensor:b") = none ∧
      submitEach sampleEnv .postgres [sampleState "a" "it's", sampleState "b" "x"]
        (fun _ => none) (1700000000000000000, "sensor:b") =
          some { status := 1, value := some "x" } ∧
      run sampleEnv .sqlite [.state (sampleState "b" "x"), .state (sampleState "b" "y")]
        (fun _ => none) (1700000000000000000, "sensor:b") =
          some { status := 1, value := some "y" } ∧
      run sampleEnv .postgres [.state (sampleState "b" "x"), .state (sampleState "b" "y")]
        (fun _ => none) (1700000000000000000, "sensor:b") =
          some { status := 1, value := some "x" } := by
  decide +kernel

end Stored

end Eva4.DbSql
