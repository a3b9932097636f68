import Eva4.DbJson.History

/-!
# Batches of states

A batch is one statement.  It is compared with submitting its states one after another: the
database after a batch that succeeds is the same, and one that fails stores nothing.
-/

namespace Eva4.DbJson

open Lib
open Items (EResult)

variable {V N T J : Type}

/-!
## Statements
-/

section Statements

variable {acceptsOid : String -> Bool} {acceptsValue : J -> Bool}

def Accepted (acceptsOid : String -> Bool) (acceptsValue : J -> Bool) (row : Row T J) : Prop :=
  acceptsOid row.oid = true ∧ acceptsValue row.entry.value = true

def single {o : OidTable acceptsOid} (row : Row T J) (first : OidTable.Assigned o) :
    Resolved T J o where
  keyed := [((row.t, first.id), row.entry)]
  oids := first.oids
  le := first.le
  below := by
    intro keyed hkeyed
    rw [List.mem_singleton.mp hkeyed]
    exact first.below

variable {rows : List (Row T J)} {row : Row T J}

lemma resolve_cons (h : resolve o (row :: rows) = some resolved) :
    exists first rest, o.getId row.oid = some first ∧ resolve first.oids rows = some rest ∧
      resolved.keyed = ((row.t, first.id), row.entry) :: rest.keyed ∧
      resolved.oids = rest.oids := by
  rcases Option.bind_eq_some_iff.mp h with ⟨first, hfirst, h⟩
  rcases Option.bind_eq_some_iff.mp h with ⟨rest, hrest, h⟩
  cases h
  exact ⟨first, rest, hfirst, hrest, rfl, rfl⟩

lemma resolve_accepted (o : OidTable acceptsOid)
    (h : forall row, row ∈ rows -> acceptsOid row.oid = true) :
    exists resolved, resolve o rows = some resolved := by
  induction rows generalizing o with
  | nil => exact ⟨_, rfl⟩
  | cons row rows ih =>
    rcases List.forall_mem_cons.mp h with ⟨hrow, hrows⟩
    rcases o.getId_accepted hrow with ⟨first, hfirst⟩
    rcases ih first.oids hrows with ⟨rest, hrest⟩
    simp only [resolve, hfirst, hrest, Option.bind_eq_bind, Option.bind_some]
    exact ⟨_, rfl⟩

lemma resolve_refused (hmem : row ∈ rows) (hrow : acceptsOid row.oid = false)
    (o : OidTable acceptsOid) : resolve o rows = none := by
  apply Option.eq_none_iff_forall_ne_some.mpr
  intro resolved hresolved
  induction rows generalizing o with
  | nil => cases hmem
  | cons head rows ih =>
    rcases resolve_cons hresolved with ⟨first, rest, hfirst, hrest, _⟩
    rcases List.mem_cons.mp hmem with heq | hlater
    · rw [← heq, o.getId_refused hrow] at hfirst
      cases hfirst
    · exact ih hlater first.oids rest hrest

variable [DecidableEq T]

def putRow (acceptsValue : J -> Bool) (c : OnConflict) (db : Db T J acceptsOid)
    (row : Row T J) : Db T J acceptsOid :=
  (insertEvents acceptsValue c [row] db).getD db

lemma insertEvents_single (c : OnConflict) (h : Accepted acceptsOid acceptsValue row)
    (db : Db T J acceptsOid) : exists first, db.oids.getId row.oid = some first ∧
      putRow acceptsValue c db row = db.store c (single row first) := by
  rcases db.oids.getId_accepted h.left with ⟨first, hfirst⟩
  have hresolve : resolve db.oids [row] = some (single row first) := by
    rw [resolve, hfirst]
    rfl
  have hnodup : ¬ (c = .replace ∧ ¬ (((single row first).keyed.map Prod.fst).Nodup)) :=
    fun hdup => hdup.right (List.nodup_singleton _)
  refine ⟨first, hfirst, ?_⟩
  unfold putRow insertEvents
  rw [List.all_cons, h.right, Bool.true_and, List.all_nil, if_pos rfl, hresolve]
  exact congrArg (Option.getD · db) (if_neg hnodup)

lemma insertEvents_refused {c : OnConflict} (hmem : row ∈ rows)
    (h : ¬ Accepted acceptsOid acceptsValue row) {db : Db T J acceptsOid} :
    insertEvents acceptsValue c rows db = none := by
  unfold insertEvents
  cases hoid : acceptsOid row.oid with
  | false =>
    rw [resolve_refused hmem hoid]
    exact ite_self none
  | true =>
    have hall : ¬ (rows.all fun row => acceptsValue row.entry.value) = true :=
      fun hall => h ⟨hoid, List.all_eq_true.mp hall row hmem⟩
    exact if_neg hall

theorem store_eq_foldl {db : Db T J acceptsOid}
    (h : forall row, row ∈ rows -> Accepted acceptsOid acceptsValue row)
    {resolved : Resolved T J db.oids} (hresolved : resolve db.oids rows = some resolved) :
    db.store c resolved = rows.foldl (putRow acceptsValue c) db := by
  induction rows generalizing db with
  | nil =>
    cases hresolved
    rfl
  | cons row rows ih =>
    rcases List.forall_mem_cons.mp h with ⟨hrow, hrows⟩
    rcases insertEvents_single c hrow db with ⟨first, hfirst, hput⟩
    rcases Option.bind_eq_some_iff.mp hresolved with ⟨first', hfirst', hresolved⟩
    rcases Option.bind_eq_some_iff.mp hresolved with ⟨rest, hrest, hresolved⟩
    rw [hfirst] at hfirst'
    cases Option.some.inj hfirst'
    rw [List.foldl_cons, hput, ← ih hrows hrest, ← Option.some.inj hresolved]
    rfl

end Statements

/-!
## Keys
-/

section Keys

def Row.key (row : Row T J) : T × String :=
  (row.t, row.oid)

variable {rows : List (Row T J)}

lemma resolve_extends (h : resolve o rows = some resolved) {id : Nat}
    (hx : o.ids.lookup x = some id) : resolved.oids.ids.lookup x = some id := by
  induction rows generalizing o with
  | nil =>
    cases h
    exact hx
  | cons row rows ih =>
    rcases resolve_cons h with ⟨first, rest, hfirst, hrest, _, hoids⟩
    rw [hoids]
    have hassigns := OidTable.assigns hfirst
    apply ih hrest
    by_cases heq : x = row.oid
    · rw [heq] at hx
      rw [heq, hassigns.same, hassigns.old id hx]
    · rw [hassigns.other x heq, hx]

lemma resolve_keys (h : resolve o rows = some resolved) :
    resolved.keyed.map (fun row => (row.1.1, some row.1.2)) =
      rows.map fun row => (row.t, resolved.oids.ids.lookup row.oid) := by
  induction rows generalizing o with
  | nil =>
    cases h
    rfl
  | cons row rows ih =>
    rcases resolve_cons h with ⟨first, rest, hfirst, hrest, hkeyed, hoids⟩
    rw [hkeyed, hoids, List.map_cons, List.map_cons, ih hrest,
      resolve_extends hrest (OidTable.assigns hfirst).same]

lemma resolve_nodup_iff (h : resolve o rows = some resolved) :
    (resolved.keyed.map Prod.fst).Nodup <-> (rows.map Row.key).Nodup := by
  have hsome : Function.Injective fun key : T × Nat => (key.1, some key.2) := by
    intro a b hab
    injection hab with ht hid
    exact Prod.ext ht (Option.some.inj hid)
  have hkeys : (resolved.keyed.map Prod.fst).map (fun key => (key.1, some key.2)) =
      (rows.map Row.key).map fun key => (key.1, resolved.oids.ids.lookup key.2) := by
    rw [List.map_map, List.map_map]
    exact resolve_keys h
  -- on the OIDs of the rows, which all have ids, the lookup is injective
  have hinj : forall a, a ∈ rows.map Row.key -> forall b, b ∈ rows.map Row.key ->
      (a.1, resolved.oids.ids.lookup a.2) = (b.1, resolved.oids.ids.lookup b.2) -> a = b := by
    intro a ha b _ hab
    injection hab with ht hid
    have hmem : (a.1, resolved.oids.ids.lookup a.2) ∈
        (resolved.keyed.map Prod.fst).map fun key => (key.1, some key.2) := by
      rw [hkeys]
      exact List.mem_map.mpr ⟨a, ha, rfl⟩
    rcases List.mem_map.mp hmem with ⟨key, _, hkey⟩
    have hlookup : resolved.oids.ids.lookup a.2 = some key.2 := (Prod.mk.inj hkey).right.symm
    exact Prod.ext ht (resolved.oids.injective a.2 b.2 key.2 hlookup (hid.symm.trans hlookup))
  rw [← List.nodup_map_iff hsome, hkeys]
  constructor
  · exact List.Nodup.of_map _
  · intro hnodup
    exact hnodup.map_on hinj

lemma insertEvents_accepted [DecidableEq T] {acceptsOid : String -> Bool} {c : OnConflict}
    (h : forall row, row ∈ rows -> Accepted acceptsOid acceptsValue row) {db : Db T J acceptsOid} :
    insertEvents acceptsValue c rows db = if c = .replace ∧ ¬ (rows.map Row.key).Nodup then none
      else some (rows.foldl (putRow acceptsValue c) db) := by
  rcases resolve_accepted db.oids fun row hrow => (h row hrow).left with ⟨resolved, hresolved⟩
  have hall : (rows.all fun row => acceptsValue row.entry.value) = true :=
    List.all_eq_true.mpr fun row hrow => (h row hrow).right
  unfold insertEvents
  rw [if_pos hall, hresolved, ← store_eq_foldl h hresolved]
  simp only [← resolve_nodup_iff hresolved]
  rfl

end Keys

/-!
## Histories
-/

section Histories

variable [DecidableEq T] {acceptsOid : String -> Bool}

def Db.history (db : Db T J acceptsOid) (t : T) (oid : String) : Option (Entry J) :=
  (db.oids.ids.lookup oid).bind fun id => db.events (t, id)

lemma history_putRow_keep (h : Accepted acceptsOid acceptsValue row) (db : Db T J acceptsOid)
    {t : T} {x : String} : (putRow acceptsValue .keep db row).history t x =
      (db.history t x).or (if (t, x) = row.key then some row.entry else none) := by
  rcases insertEvents_single .keep h db with ⟨first, hfirst, hput⟩
  have hassigns := OidTable.assigns hfirst
  have hevents : forall id, (db.store .keep (single row first)).events (t, id) =
      (db.events (t, id)).or (if (t, id) = (row.t, first.id) then some row.entry else none) :=
    fun id => Rows.put_keep_apply db.events
  rw [hput]
  change (first.oids.ids.lookup x).bind
    (fun id => (db.store .keep (single row first)).events (t, id)) = _
  by_cases heq : x = row.oid
  · have hbefore : db.events (t, first.id) = db.history t x := by
      unfold Db.history
      cases hx : db.oids.ids.lookup x with
      | some id =>
        rw [heq] at hx
        rw [hassigns.old id hx]
        rfl
      | none =>
        rw [heq] at hx
        cases hfree : db.events (t, first.id) with
        | none => rfl
        | some entry =>
          have hbelow := db.foreign t first.id (by rw [hfree]; exact Option.some_ne_none _)
          rw [hassigns.new hx] at hbelow
          exact absurd hbelow (Nat.lt_irrefl _)
    rw [heq, hassigns.same, Option.bind_some, hevents, hbefore, heq]
    simp only [Row.key, Prod.mk.injEq, and_true]
  · have hkey : (t, x) ≠ row.key := fun hkey => heq (Prod.mk.inj hkey).right
    rw [hassigns.other x heq, if_neg hkey, Option.or_none]
    unfold Db.history
    cases hx : db.oids.ids.lookup x with
    | none => rfl
    | some id =>
      have hid : (t, id) ≠ (row.t, first.id) := by
        intro hid
        have hlookup : first.oids.ids.lookup x = some first.id := by
          rw [hassigns.other x heq, hx, (Prod.mk.inj hid).right]
        exact heq (first.oids.injective x row.oid first.id hlookup hassigns.same)
      rw [Option.bind_some, Option.bind_some, hevents, if_neg hid, Option.or_none]

lemma history_foldl_keep {rows : List (Row T J)}
    (h : forall row, row ∈ rows -> Accepted acceptsOid acceptsValue row) {db : Db T J acceptsOid} :
    (rows.foldl (putRow acceptsValue .keep) db).history t x = (db.history t x).or
        ((rows.find? fun row => decide ((t, x) = row.key)).map Row.entry) := by
  induction rows generalizing db with
  | nil => exact Option.or_none.symm
  | cons row rows ih =>
    rcases List.forall_mem_cons.mp h with ⟨hrow, hrows⟩
    rw [List.foldl_cons, ih hrows, history_putRow_keep hrow, Option.or_assoc, List.find?_cons]
    by_cases heq : (t, x) = row.key
    · rw [if_pos heq, decide_eq_true heq, Option.some_or, Option.map_some]
    · rw [if_neg heq, decide_eq_false heq, Option.none_or]

end Histories

/-!
## States
-/

section States

variable (env : Env V N T J)

instance (row : Row T J) : Decidable (Accepted env.acceptsOid env.acceptsValue row) :=
  inferInstanceAs (Decidable (_ ∧ _))

def storable (state : ItemState V) : Option (Row T J) :=
  match toRow env state with
  | .ok (some row) => if Accepted env.acceptsOid env.acceptsValue row then some row else none
  | _ => none

/-- The value of the state is to be stored, but its time cannot be converted or the database does
not take it. -/
def Refused (state : ItemState V) : Prop :=
  env.toJson state.value ≠ none ∧ storable env state = none

variable {env} {states : List (ItemState V)} {state : ItemState V}

lemma storable_some (h : storable env state = some row) :
    toRow env state = .ok (some row) ∧ Accepted env.acceptsOid env.acceptsValue row := by
  unfold storable at h
  split at h
  · next other hrow =>
    split at h
    · next haccepted =>
      rw [Option.some.inj h] at hrow haccepted
      exact ⟨hrow, haccepted⟩
    · cases h
  · cases h

lemma storable_filterMap :
    forall row, row ∈ states.filterMap (storable env) ->
      Accepted env.acceptsOid env.acceptsValue row := by
  intro row hrow
  rcases List.mem_filterMap.mp hrow with ⟨state, _, hstate⟩
  exact (storable_some hstate).right

lemma toRow_of_not_json (h : env.toJson state.value = none) : toRow env state = .ok none := by
  unfold toRow
  rw [h]

lemma toRows_ok (h : forall state, state ∈ states -> ¬ Refused env state) :
    toRows env states = .ok (states.filterMap (storable env)) := by
  induction states with
  | nil => rfl
  | cons state states ih =>
    rcases List.forall_mem_cons.mp h with ⟨hstate, hstates⟩
    unfold toRows
    cases hstored : storable env state with
    | some row =>
      rw [(storable_some hstored).left, ih hstates, List.filterMap_cons_some hstored]
      rfl
    | none =>
      have hjson : env.toJson state.value = none := by
        by_contra hjson
        exact hstate ⟨hjson, hstored⟩
      rw [toRow_of_not_json hjson, ih hstates, List.filterMap_cons_none hstored]
      rfl

theorem toRows_refused (hmem : state ∈ states) (h : Refused env state)
    (hrows : toRows env states = .ok rows) :
    exists row, row ∈ rows ∧ ¬ Accepted env.acceptsOid env.acceptsValue row := by
  induction states generalizing rows with
  | nil => cases hmem
  | cons head states ih =>
    unfold toRows at hrows
    cases hhead : toRow env head with
    | error e =>
      rw [hhead] at hrows
      cases hrows
    | ok row =>
      cases hrest : toRows env states with
      | error e =>
        rw [hhead, hrest] at hrows
        cases hrows
      | ok rest =>
        rw [hhead, hrest] at hrows
        cases hrows
        cases List.mem_cons.mp hmem with
        | inr hlater =>
          rcases ih hlater hrest with ⟨bad, hbad, hrefused⟩
          exact ⟨bad, List.mem_append_right _ hbad, hrefused⟩
        | inl heq =>
          rw [heq] at h
          cases row with
          | none =>
            unfold toRow at hhead
            cases hjson : env.toJson head.value with
            | none => exact absurd hjson h.left
            | some value =>
              simp only [hjson] at hhead
              cases htime : tsToNaive env head.setTime with
              | error | ok =>
                rw [htime] at hhead
                cases hhead
          | some row =>
            refine ⟨row, List.mem_append_left _ (by simp), ?_⟩
            intro haccepted
            have hstored := h.right
            simp only [storable, hhead, if_pos haccepted, reduceCtorEq] at hstored

variable [DecidableEq T]

lemma after_execute (h : submission db = execute env c rows db) :
    after env submission db = (insertEvents env.acceptsValue c rows db).getD db := by
  unfold after
  rw [h, execute]
  cases insertEvents env.acceptsValue c rows db with
  | none | some => rfl

theorem after_submit :
    after env (submit env state) db =
      (storable env state).elim db (putRow env.acceptsValue .replace db) := by
  have hsubmit : forall row, toRow env state = .ok (some row) ->
      submit env state db = execute env .replace [row] db := by
    intro row hrow
    unfold submit
    rw [hrow]
    rfl
  cases hstate : storable env state with
  | some row =>
    rw [after_execute (hsubmit row (storable_some hstate).left)]
    rfl
  | none =>
    cases hrow : toRow env state with
    | error e =>
      unfold after submit
      rw [hrow]
      rfl
    | ok row =>
      cases row with
      | none =>
        unfold after submit
        rw [hrow]
        rfl
      | some row =>
        have hrefused : ¬ Accepted env.acceptsOid env.acceptsValue row := by
          intro haccepted
          simp only [storable, hrow, if_pos haccepted, reduceCtorEq] at hstate
        rw [after_execute (hsubmit row hrow),
          insertEvents_refused (List.mem_singleton.mpr rfl) hrefused]
        rfl

lemma submitEach_eq :
    submitEach env states db =
      (states.filterMap (storable env)).foldl (putRow env.acceptsValue .replace) db := by
  induction states generalizing db with
  | nil => rfl
  | cons state states ih =>
    change submitEach env states (after env (submit env state) db) = _
    rw [ih, after_submit]
    cases hstate : storable env state with
    | none => rw [List.filterMap_cons_none hstate]; rfl
    | some row => rw [List.filterMap_cons_some hstate]; rfl

lemma submitBulk_eq (h : toRows env states = .ok rows) (hne : rows ≠ []) :
    submitBulk env states replace db =
      execute env (if replace then .replace else .keep) rows db := by
  cases states with
  | nil => exact absurd (Except.ok.inj h).symm hne
  | cons state states =>
    unfold submitBulk
    rw [h]
    cases rows with
    | nil => exact absurd rfl hne
    | cons row rows => rfl

lemma after_submitBulk_accepted (h : forall state, state ∈ states -> ¬ Refused env state)
    (replace : Bool)
    (hnodup : replace = true -> ((states.filterMap (storable env)).map Row.key).Nodup)
    (db : Db T J env.acceptsOid) : after env (submitBulk env states replace) db =
      (states.filterMap (storable env)).foldl
        (putRow env.acceptsValue (if replace then .replace else .keep)) db := by
  have hrows := toRows_ok h
  have haccepted : forall row, row ∈ states.filterMap (storable env) ->
      Accepted env.acceptsOid env.acceptsValue row := storable_filterMap
  generalize states.filterMap (storable env) = rows at hrows hnodup haccepted ⊢
  cases rows with
  | nil =>
    unfold after submitBulk
    rw [hrows]
    cases states.isEmpty with
    | true | false => rfl
  | cons row rows =>
    have hkeys : ¬ ((if replace then OnConflict.replace else .keep) = .replace ∧
        ¬ ((row :: rows).map Row.key).Nodup) := by
      rintro ⟨hreplace, hdup⟩
      cases replace with
      | false => cases hreplace
      | true => exact hdup (hnodup rfl)
    rw [after_execute (submitBulk_eq hrows (List.cons_ne_nil _ _)),
      insertEvents_accepted haccepted, if_neg hkeys]
    rfl

lemma after_submitBulk_refused (hmem : state ∈ states) (h : Refused env state) :
    after env (submitBulk env states replace) db = db := by
  cases hrows : toRows env states with
  | error e =>
    have hempty : states.isEmpty = false :=
      List.isEmpty_eq_false_iff_exists_mem.mpr ⟨state, hmem⟩
    unfold after submitBulk
    rw [hempty, hrows]
    rfl
  | ok rows =>
    rcases toRows_refused hmem h hrows with ⟨row, hrow, hrefused⟩
    rw [after_execute (submitBulk_eq hrows (List.ne_nil_of_mem hrow)),
      insertEvents_refused hrow hrefused]
    rfl

theorem after_submitBulk_repeated (h : forall state, state ∈ states -> ¬ Refused env state)
    (hdup : ¬ ((states.filterMap (storable env)).map Row.key).Nodup) :
    after env (submitBulk env states true) db = db := by
  have hne : states.filterMap (storable env) ≠ [] := by
    intro hnil
    rw [hnil] at hdup
    exact hdup List.nodup_nil
  rw [after_execute (submitBulk_eq (toRows_ok h) hne),
    insertEvents_accepted storable_filterMap]
  exact congrArg (Option.getD · db) (if_pos ⟨rfl, hdup⟩)

/-!
## What a batch leaves
-/

def SameHistory {acceptsOid : String -> Bool} (db db' : Db T J acceptsOid) : Prop :=
  forall t x, db.history t x = db'.history t x

def firstRecord (env : Env V N T J) (states : List (ItemState V)) (t : T) (x : String) :
    Option (Entry J) :=
  ((states.filterMap (storable env)).find? fun row => decide ((t, x) = row.key)).map Row.entry

/-- The records that are there, and the first one of the states where there is none. -/
def FirstKept (env : Env V N T J) (states : List (ItemState V)) (db db' : Db T J env.acceptsOid) :
    Prop :=
  forall t x, db'.history t x = (db.history t x).or (firstRecord env states t x)

/-- A batch that replaces records leaves what its states would leave one by one exactly if the
statement can be executed, or if there is nothing to be stored; so does one that keeps records. -/
theorem submitBulk_stores_batch_iff (env : Env V N T J) (states : List (ItemState V))
    (db : Db T J env.acceptsOid) :
    (SameHistory (after env (submitBulk env states true) db) (submitEach env states db) <->
      ((forall state, state ∈ states -> ¬ Refused env state) ∧
          ((states.filterMap (storable env)).map Row.key).Nodup) ∨
        SameHistory db (submitEach env states db)) ∧
    (FirstKept env states db (after env (submitBulk env states false) db) <->
      (forall state, state ∈ states -> ¬ Refused env state) ∨ FirstKept env states db db) := by
  by_cases hstates : forall state, state ∈ states -> ¬ Refused env state
  · constructor
    · by_cases hnodup : ((states.filterMap (storable env)).map Row.key).Nodup
      · rw [after_submitBulk_accepted hstates true (fun _ => hnodup), submitEach_eq]
        exact ⟨fun _ => Or.inl ⟨hstates, hnodup⟩, fun _ _ _ => rfl⟩
      · rw [after_submitBulk_repeated hstates hnodup]
        exact ⟨Or.inr, fun h => h.resolve_left fun h => hnodup h.right⟩
    · rw [after_submitBulk_accepted hstates false nofun]
      exact ⟨fun _ => Or.inl hstates, fun _ t x => history_foldl_keep storable_filterMap⟩
  · push Not at hstates
    rcases hstates with ⟨state, hmem, hstate⟩
    have hnot : ¬ forall state, state ∈ states -> ¬ Refused env state :=
      fun h => h state hmem hstate
    rw [after_submitBulk_refused hmem hstate, after_submitBulk_refused hmem hstate]
    constructor
    · exact ⟨Or.inr, fun h => h.resolve_left fun h => hnot h.left⟩
    · exact ⟨Or.inr, fun h => h.resolve_left hnot⟩

def sampleEnv : Env Int Int Int Int where
  toJson := some
  truncSecs
    | .fin x => x.floor
    | _ => 0
  fractNanos
    | .fin x => ((x - x.floor) * 1000000000).floor.toNat
    | _ => 0
  fromTimestamp := fun secs nanos => some (secs * 1000000000 + nanos)
  timestamp := fun t => t / 1000
  acceptsOid := fun oid => decide (oid.length <= 256)
  acceptsValue := fun _ => true
  sqlError := { kind := .failed, message := "database error" }

def emptyDb : Db Int Int sampleEnv.acceptsOid where
  oids := { ids := ∅, next := 1, below := nofun, injective := nofun, accepted := nofun }
  events := fun _ => none
  foreign := fun _ _ h => absurd rfl h

def sampleStates : List (ItemState Int) :=
  [{ oid := ⟨.sensor, "t1"⟩, setTime := .fin 1700000000, status := 1, value := 20 },
   { oid := ⟨.sensor, "t1"⟩, setTime := .fin 1700000000, status := 1, value := 21 }]

/-- Of two states set at the same time the last one is stored if they are submitted one by one,
and none if they are submitted together. -/
theorem submitBulk_loses_states_set_together :
    (((submitEach sampleEnv sampleStates emptyDb).history 1700000000000000 "sensor:t1").map
        Entry.value = some 21) ∧
      (((after sampleEnv (submitBulk sampleEnv sampleStates true) emptyDb).history
        1700000000000000 "sensor:t1").map Entry.value = none) ∧
      ¬ SameHistory (after sampleEnv (submitBulk sampleEnv sampleStates true) emptyDb)
        (submitEach sampleEnv sampleStates emptyDb) := by
  have heach : ((submitEach sampleEnv sampleStates emptyDb).history 1700000000000000
      "sensor:t1").map Entry.value = some 21 := by decide +kernel
  have hbulk : ((after sampleEnv (submitBulk sampleEnv sampleStates true) emptyDb).history
      1700000000000000 "sensor:t1").map Entry.value = none := by decide +kernel
  refine ⟨heach, hbulk, ?_⟩
  intro hsame
  rw [hsame, heach] at hbulk
  cases hbulk

end States

/-!
## The buffer of the sender
-/

inductive Event (V : Type) where
  | state (state : ItemState V)
  | bulkState (states : List (ItemState V))

inductive Input (V : Type) where
  | recv (event : Event V)
  | tick

structure Sender (V T J : Type) (acceptsOid : String -> Bool) where
  dataBuf : List (ItemState V)
  db : Db T J acceptsOid

section Sender

variable [DecidableEq T] (env : Env V N T J)

def notify (event : Event V) (db : Db T J env.acceptsOid) : Db T J env.acceptsOid :=
  match event with
  | .state v => after env (submit env v) db
  | .bulkState v => after env (submitBulk env v true) db

/-- Without a buffer all events are submitted as they come. -/
def Sender.step (buffered : Bool) (s : Sender V T J env.acceptsOid) :
    Input V -> Sender V T J env.acceptsOid
  | .recv (.state state) =>
    if buffered then { s with dataBuf := s.dataBuf ++ [state] }
    else { s with db := notify env (.state state) s.db }
  | .recv (.bulkState states) => { s with db := notify env (.bulkState states) s.db }
  | .tick =>
    if s.dataBuf.isEmpty then s
    else { dataBuf := [], db := notify env (.bulkState s.dataBuf) s.db }

lemma Sender.foldl_recv (states : List (ItemState V)) (s : Sender V T J env.acceptsOid) :
    (states.map fun state => Input.recv (.state state)).foldl (Sender.step env true) s =
      { s with dataBuf := s.dataBuf ++ states } := by
  induction states generalizing s with
  | nil => rw [List.append_nil]; rfl
  | cons state states ih =>
    rw [List.map_cons, List.foldl_cons, ih]
    change { s with dataBuf := (s.dataBuf ++ [state]) ++ states } = _
    rw [List.append_assoc, List.singleton_append]

/-- The states of a period are submitted as one batch. -/
theorem Sender.period (states : List (ItemState V)) (db : Db T J env.acceptsOid) :
    ((states.map fun state => Input.recv (.state state)) ++ [Input.tick]).foldl
        (Sender.step env true) { dataBuf := [], db := db } =
      { dataBuf := [], db := after env (submitBulk env states true) db } := by
  rw [List.foldl_append, Sender.foldl_recv]
  cases states with
  | nil | cons => rfl

end Sender

end Eva4.DbJson
