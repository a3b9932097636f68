import Mathlib.Data.List.Induction
import Eva4.Lib.Table
import Eva4.Items.Basic

/-!
# The inventory database

The configurations and the states of local items are kept in one table.  Postgres inserts
configurations and updates those that are there, SQLite replaces whole rows.  A statement of
Postgres fails as a whole if a text is too long for its column or if it would update a row twice;
SQLite checks no lengths.
-/

namespace Eva4.InventoryDb

open Lib Items

/-!
## Chunks
-/

def chunks {A : Type} (size : Nat) : List A -> List (List A)
  | [] => []
  | x :: xs =>
    let rest := List.toChunksAux (size - 1) xs (size - 1)
    (x :: rest.1) :: rest.2

lemma toChunksAux_flatten :
    forall i, (List.toChunksAux n xs i).1 ++ (List.toChunksAux n xs i).2.flatten = xs := by
  induction xs with
  | nil =>
    intro i
    rfl
  | cons x xs ih =>
    intro i
    cases i with
    | zero => exact congrArg (List.cons x) (ih n)
    | succ i => exact congrArg (List.cons x) (ih i)

lemma chunks_flatten (size : Nat) (xs : List A) : (chunks size xs).flatten = xs := by
  cases xs with
  | nil => rfl
  | cons x xs => exact congrArg (List.cons x) (toChunksAux_flatten (size - 1))

/-!
## The table
-/

structure Row where
  cfg : String
  state : Option String
deriving DecidableEq, Repr

abbrev Rows : Type :=
  OID -> Option Row

def maxOidLength : Nat := 768

def maxCfgLength : Nat := 4096

def maxStateLength : Nat := 8192

def maxChunkSize : Nat := 500

namespace Rows

def upsertCfg (rows : Rows) (oid : OID) (cfg : String) : Rows :=
  Function.update rows oid (some { cfg := cfg, state := (rows oid).bind Row.state })

def replaceCfg (rows : Rows) (oid : OID) (cfg : String) : Rows :=
  Function.update rows oid (some { cfg := cfg, state := none })

def updateState (rows : Rows) (oid : OID) (state : String) : Rows :=
  Function.update rows oid ((rows oid).map fun row => { row with state := some state })

def delete (rows : Rows) (oid : OID) : Rows :=
  Function.update rows oid none

end Rows

structure Texts (C S : Type) where
  cfg : C -> Option String
  state : S -> Option String

variable {C S : Type}

/-!
## Postgres
-/

variable (texts : Texts C S)

namespace Postgres

def fits (value : OID × String) : Bool :=
  decide (value.1.asStr.length ≤ maxOidLength) && decide (value.2.length ≤ maxCfgLength)

variable (rows : Rows)

def insertOrUpdate (values : List (OID × String)) : Option Rows :=
  if (values.map Prod.fst).Nodup ∧ values.all fits then
    some (values.foldl (fun rows v => rows.upsertCfg v.1 v.2) rows)
  else none

def saveChunk (chunk : List (OID × C)) : Option Rows :=
  insertOrUpdate rows
    (chunk.filterMap fun item => (texts.cfg item.2).map fun text => (item.1, text))

/-- All chunks in one transaction; returns whether it was committed. -/
def saveItems (items : List (OID × C)) : Bool × Rows :=
  match (chunks maxChunkSize items).foldlM (saveChunk texts) rows with
  | some rows' => (true, rows')
  | none => (false, rows)

def saveStates (states : Table OID S) : Bool × Rows :=
  let values := states.entries.filterMap fun s => (texts.state s.2).map fun text => (s.1, text)
  if values.all fun v => (rows v.1).isNone || decide (v.2.length ≤ maxStateLength) then
    (true, fun oid =>
      match values.lookup oid with
      | some text => (rows oid).map fun row => { row with state := some text }
      | none => rows oid)
  else (false, rows)

def destroyItems (oids : List OID) : Bool × Rows :=
  (true, fun oid => if oid ∈ oids then none else rows oid)

end Postgres

/-!
## SQLite
-/

namespace Sqlite

/-- One statement; it fails if a configuration cannot be serialized. -/
def saveChunk (rows : Rows) (chunk : List (OID × C)) : Option Rows :=
  match chunk.mapM fun item => (texts.cfg item.2).map fun text => (item.1, text) with
  | some values => some (values.foldl (fun rows v => rows.replaceCfg v.1 v.2) rows)
  | none => none

def saveItems (rows : Rows) (items : List (OID × C)) : Bool × Rows :=
  match (chunks maxChunkSize items).foldlM (saveChunk texts) rows with
  | some rows' => (true, rows')
  | none => (false, rows)

/-- One statement for each state that can be serialized. -/
def saveStates (rows : Rows) (states : Table OID S) : Bool × Rows :=
  (true, states.entries.foldl (fun rows s =>
    match texts.state s.2 with
    | some text => rows.updateState s.1 text
    | none => rows) rows)

def destroyItems (rows : Rows) (oids : List OID) : Bool × Rows :=
  (true, oids.foldl Rows.delete rows)

end Sqlite

/-!
## Saving configurations

On regular items neither storage fails, and both write the same texts in the same order.
-/

variable (items : List (OID × C))

def cfgTexts : List (OID × String) :=
  items.filterMap fun item => (texts.cfg item.2).map fun text => (item.1, text)

def RegularItem (item : OID × C) : Prop :=
  exists text, texts.cfg item.2 = some text ∧ Postgres.fits (item.1, text) = true

structure RegularItems : Prop where
  item : forall item, item ∈ items -> RegularItem texts item
  once : forall chunk, chunk ∈ chunks maxChunkSize items -> (chunk.map Prod.fst).Nodup

lemma cfgTexts_keys (hitems : forall item, item ∈ items -> RegularItem texts item) :
    (cfgTexts texts items).map Prod.fst = items.map Prod.fst := by
  induction items with
  | nil => rfl
  | cons item items ih =>
    rcases hitems item (List.mem_cons_self ..) with ⟨text, htext, _⟩
    have hrest := ih fun other h => hitems other (List.mem_cons_of_mem _ h)
    unfold cfgTexts at hrest ⊢
    rw [List.filterMap_cons, htext]
    simp only [Option.map_some, List.map_cons, hrest]

variable {items}

lemma cfgTexts_fit (hitems : forall item, item ∈ items -> RegularItem texts item) :
    (cfgTexts texts items).all Postgres.fits = true := by
  rw [List.all_eq_true]
  intro value hvalue
  rcases List.mem_filterMap.mp hvalue with ⟨item, hitem, hmap⟩
  rcases hitems item hitem with ⟨text, htext, hfits⟩
  rw [htext] at hmap
  cases hmap
  exact hfits

lemma mapM_cfgTexts (hitems : forall item, item ∈ items -> RegularItem texts item) :
    items.mapM (fun item => (texts.cfg item.2).map fun text => (item.1, text)) =
      some (cfgTexts texts items) := by
  induction items with
  | nil => rfl
  | cons item items ih =>
    rcases hitems item (List.mem_cons_self ..) with ⟨text, htext, _⟩
    have hrest := ih fun other h => hitems other (List.mem_cons_of_mem _ h)
    unfold cfgTexts at hrest ⊢
    rw [List.mapM_cons, List.filterMap_cons, htext, hrest]
    rfl

lemma saveChunk_postgres (hitems : forall item, item ∈ chunk -> RegularItem texts item)
    (honce : (chunk.map Prod.fst).Nodup) : Postgres.saveChunk texts rows chunk =
      some ((cfgTexts texts chunk).foldl (fun rows v => rows.upsertCfg v.1 v.2) rows) := by
  have hkeys : ((cfgTexts texts chunk).map Prod.fst).Nodup := by
    rw [cfgTexts_keys texts chunk hitems]
    exact honce
  exact if_pos ⟨hkeys, cfgTexts_fit texts hitems⟩

lemma foldlM_chunks
    (pieces : List (List (OID × C))) (hsave : forall piece, piece ∈ pieces -> forall rows,
      save rows piece = some ((cfgTexts texts piece).foldl write rows)) (rows : Rows) :
    pieces.foldlM save rows = some ((cfgTexts texts pieces.flatten).foldl write rows) := by
  induction pieces generalizing rows with
  | nil => rfl
  | cons piece pieces ih =>
    rw [List.foldlM_cons, hsave piece (List.mem_cons_self ..) rows]
    simp only [Option.bind_eq_bind, Option.bind_some]
    rw [ih fun other h => hsave other (List.mem_cons_of_mem _ h)]
    unfold cfgTexts
    rw [List.flatten_cons, List.filterMap_append, List.foldl_append]

lemma mem_of_mem_chunk (hchunk : chunk ∈ chunks size xs) (hx : x ∈ chunk) : x ∈ xs := by
  rw [← chunks_flatten size xs]
  exact List.mem_flatten_of_mem hchunk hx

variable {texts} in
lemma saveItems_postgres (hregular : RegularItems texts items) {rows : Rows} :
    Postgres.saveItems texts rows items =
      (true, (cfgTexts texts items).foldl (fun rows v => rows.upsertCfg v.1 v.2) rows) := by
  unfold Postgres.saveItems
  rw [foldlM_chunks texts _ fun chunk hchunk rows => saveChunk_postgres texts
    (fun item h => hregular.item item (mem_of_mem_chunk hchunk h))
    (hregular.once chunk hchunk)]
  rw [chunks_flatten]

variable {texts} in
lemma saveItems_sqlite (hregular : RegularItems texts items) {rows : Rows} :
    Sqlite.saveItems texts rows items = (true,
        (cfgTexts texts items).foldl (fun rows v => rows.replaceCfg v.1 v.2) rows) := by
  unfold Sqlite.saveItems Sqlite.saveChunk
  rw [foldlM_chunks texts _ fun chunk hchunk rows => by
    rw [mapM_cfgTexts texts fun item h => hregular.item item (mem_of_mem_chunk hchunk h)]]
  rw [chunks_flatten]

lemma upsertAll_state (values : List (OID × String)) (rows : Rows) (oid : OID) :
    ((values.foldl (fun rows v => rows.upsertCfg v.1 v.2) rows) oid).bind Row.state =
      (rows oid).bind Row.state := by
  induction values generalizing rows with
  | nil => rfl
  | cons v values ih =>
    rw [List.foldl_cons, ih]
    unfold Rows.upsertCfg
    rw [Function.update_apply]
    split
    · next heq =>
      rw [heq]
      rfl
    · rfl

lemma replaceAll_apply (values : List (OID × String)) (rows : Rows) (oid : OID) :
    (values.foldl (fun rows v => rows.replaceCfg v.1 v.2) rows) oid =
      if oid ∈ values.map Prod.fst then
        ((values.foldl (fun rows v => rows.upsertCfg v.1 v.2) rows) oid).map
          fun row => { row with state := none }
      else (values.foldl (fun rows v => rows.upsertCfg v.1 v.2) rows) oid := by
  induction values using List.reverseRecOn with
  | nil => rfl
  | append_singleton values v ih =>
    rw [List.foldl_append, List.foldl_append]
    simp only [List.foldl_cons, List.foldl_nil, Rows.replaceCfg, Rows.upsertCfg,
      Function.update_apply, List.map_append, List.map_cons, List.map_nil,
      List.mem_append, List.mem_singleton]
    by_cases heq : oid = v.1
    · simp only [heq, if_true, or_true, Option.map_some]
    · simp only [heq, if_false, or_false]
      exact ih

lemma map_withoutState_eq_iff (row : Option Row) :
    row.map (fun row => { row with state := none }) = row <-> row.bind Row.state = none := by
  cases row with
  | none => simp
  | some row =>
    rcases row with ⟨cfg, state⟩
    simp only [Option.map_some, Option.bind_some, Option.some.injEq, Row.mk.injEq, true_and]
    exact eq_comm

variable {texts} in
lemma saveItems_agree_iff (hregular : RegularItems texts items) :
    Postgres.saveItems texts rows items = Sqlite.saveItems texts rows items <->
      forall item, item ∈ items -> (rows item.1).bind Row.state = none := by
  rw [saveItems_postgres hregular, saveItems_sqlite hregular]
  have hkeys := cfgTexts_keys texts items hregular.item
  constructor
  · intro h item hitem
    have hoid : item.1 ∈ (cfgTexts texts items).map Prod.fst := by
      rw [hkeys]
      exact List.mem_map_of_mem hitem
    have hsame := congrFun (congrArg Prod.snd h) item.1
    simp only [] at hsame
    rw [replaceAll_apply, if_pos hoid] at hsame
    have hnone := (map_withoutState_eq_iff _).mp hsame.symm
    rw [upsertAll_state] at hnone
    exact hnone
  · intro h
    refine congrArg (Prod.mk true) (funext fun oid => ?_)
    rw [replaceAll_apply]
    split
    · next hoid =>
      rw [hkeys] at hoid
      rcases List.mem_map.mp hoid with ⟨item, hitem, heq⟩
      have hnone := h item hitem
      rw [heq, ← upsertAll_state (cfgTexts texts items) rows oid] at hnone
      exact ((map_withoutState_eq_iff _).mpr hnone).symm
    · rfl

/-!
## Saving states and destroying items
-/

def RegularStates (states : Table OID S) : Prop :=
  forall s, s ∈ states.entries -> forall text, texts.state s.2 = some text ->
    text.length ≤ maxStateLength

lemma updateStates_apply (entries : List (Sigma fun _ : OID => S)) (hkeys : entries.NodupKeys)
    (rows : Rows) (oid : OID) :
    (entries.foldl (fun rows s =>
        match texts.state s.2 with
        | some text => rows.updateState s.1 text
        | none => rows) rows) oid =
      match (entries.filterMap fun s =>
        (texts.state s.2).map fun text => (s.1, text)).lookup oid with
      | some text => (rows oid).map fun row => { row with state := some text }
      | none => rows oid := by
  induction entries generalizing rows with
  | nil => rfl
  | cons s entries ih =>
    rcases List.nodupKeys_cons.mp hkeys with ⟨hfresh, hrest⟩
    rw [List.foldl_cons, ih hrest]
    cases htext : texts.state s.2 with
    | none => rw [List.filterMap_cons, htext]; rfl
    | some text =>
      rw [List.filterMap_cons, htext]
      simp only [Option.map_some, List.lookup_cons]
      by_cases heq : oid = s.1
      · have hnone : (entries.filterMap fun s =>
            (texts.state s.2).map fun text => (s.1, text)).lookup oid = none := by
          rw [List.lookup_eq_none_iff]
          intro value hvalue
          rcases List.mem_filterMap.mp hvalue with ⟨other, hother, hmap⟩
          rcases Option.map_eq_some_iff.mp hmap with ⟨_, _, hpair⟩
          rw [← hpair]
          have hne : oid ≠ other.1 := by
            intro hsame
            rw [heq] at hsame
            exact hfresh (hsame ▸ List.mem_map_of_mem hother)
          exact bne_iff_ne.mpr hne
        rw [hnone, beq_iff_eq.mpr heq]
        simp only [Rows.updateState, Function.update_apply, if_pos heq]
        rw [heq]
      · rw [beq_false_of_ne heq]
        simp only [Rows.updateState, Function.update_apply, if_neg heq]

variable {texts} in
lemma saveStates_agree (hregular : RegularStates texts states) :
    Postgres.saveStates texts rows states = Sqlite.saveStates texts rows states := by
  unfold Postgres.saveStates Sqlite.saveStates
  rw [if_pos]
  · refine congrArg (Prod.mk true) (funext fun oid => ?_)
    exact (updateStates_apply texts states.entries states.nodupKeys rows oid).symm
  · rw [List.all_eq_true]
    intro value hvalue
    rcases List.mem_filterMap.mp hvalue with ⟨s, hs, hmap⟩
    rcases Option.map_eq_some_iff.mp hmap with ⟨text, htext, hpair⟩
    rw [← hpair, Bool.or_eq_true]
    exact Or.inr (decide_eq_true (hregular s hs text htext))

lemma deleteAll_apply (oids : List OID) (rows : Rows) (oid : OID) :
    (oids.foldl Rows.delete rows) oid = if oid ∈ oids then none else rows oid := by
  induction oids generalizing rows with
  | nil => rfl
  | cons first oids ih =>
    rw [List.foldl_cons, ih]
    simp only [Rows.delete, Function.update_apply, List.mem_cons]
    by_cases heq : oid = first
    · simp [heq]
    · simp [heq]

lemma destroyItems_agree : Postgres.destroyItems rows oids = Sqlite.destroyItems rows oids := by
  refine congrArg (Prod.mk true) (funext fun oid => ?_)
  exact (deleteAll_apply oids rows oid).symm

/-!
## The storages agree
-/

inductive Call (C S : Type) where
  | saveItems (items : List (OID × C))
  | saveStates (states : Table OID S)
  | destroyItems (oids : List OID)

namespace Call

def postgres (rows : Rows) : Call C S -> Bool × Rows
  | saveItems items => Postgres.saveItems texts rows items
  | saveStates states => Postgres.saveStates texts rows states
  | destroyItems oids => Postgres.destroyItems rows oids

def sqlite (rows : Rows) : Call C S -> Bool × Rows
  | saveItems items => Sqlite.saveItems texts rows items
  | saveStates states => Sqlite.saveStates texts rows states
  | destroyItems oids => Sqlite.destroyItems rows oids

/-- All configurations can be serialized, all texts fit in their columns, and no chunk of
configurations has an OID twice. -/
def Regular : Call C S -> Prop
  | saveItems items => RegularItems texts items
  | saveStates states => RegularStates texts states
  | destroyItems _ => True

/-- No configuration is saved for a row that has a state. -/
def KeepsStates (rows : Rows) : Call C S -> Prop
  | saveItems items => forall item, item ∈ items -> (rows item.1).bind Row.state = none
  | saveStates _ => True
  | destroyItems _ => True

variable {texts} in
lemma agree_iff {call : Call C S} (hregular : call.Regular texts) (rows : Rows) :
    call.postgres texts rows = call.sqlite texts rows <-> call.KeepsStates rows := by
  cases call with
  | saveItems items => exact saveItems_agree_iff hregular
  | saveStates states => exact iff_of_true (saveStates_agree hregular) trivial
  | destroyItems oids => exact iff_of_true destroyItems_agree trivial

variable {texts} in
lemma succeeds {call : Call C S} (hregular : call.Regular texts) (rows : Rows) :
    (call.postgres texts rows).1 = true ∧ (call.sqlite texts rows).1 = true := by
  cases call with
  | saveItems items =>
    exact ⟨congrArg Prod.fst (saveItems_postgres hregular),
      congrArg Prod.fst (saveItems_sqlite hregular)⟩
  | saveStates states => exact ⟨congrArg Prod.fst (saveStates_agree hregular), rfl⟩
  | destroyItems oids => exact ⟨rfl, rfl⟩

end Call

def runPostgres (rows : Rows) (calls : List (Call C S)) : Rows :=
  calls.foldl (fun rows call => (call.postgres texts rows).2) rows

def runSqlite (rows : Rows) (calls : List (Call C S)) : Rows :=
  calls.foldl (fun rows call => (call.sqlite texts rows).2) rows

def KeepStates (texts : Texts C S) : Rows -> List (Call C S) -> Prop
  | _, [] => True
  | rows, call :: calls =>
    call.KeepsStates rows ∧ KeepStates texts (call.postgres texts rows).2 calls

/-- After every prefix of a sequence of regular calls the two storages hold the same rows,
exactly if no configuration is saved for a row that has a state. -/
theorem storages_agree_iff (texts : Texts C S) (calls : List (Call C S))
    (hregular : forall call, call ∈ calls -> call.Regular texts) (rows : Rows) :
    (forall n, runPostgres texts rows (calls.take n) = runSqlite texts rows (calls.take n)) <->
      KeepStates texts rows calls := by
  induction calls generalizing rows with
  | nil =>
    refine iff_of_true (fun n => ?_) trivial
    rw [List.take_nil]
    rfl
  | cons call calls ih =>
    have hcall := hregular call (List.mem_cons_self ..)
    have hrest := ih fun other h => hregular other (List.mem_cons_of_mem _ h)
    have hstep := Call.agree_iff hcall rows
    constructor
    · intro h
      have hfirst : (call.postgres texts rows).2 = (call.sqlite texts rows).2 := h 1
      have hsucceeds := Call.succeeds hcall rows
      have hsame : call.postgres texts rows = call.sqlite texts rows :=
        Prod.ext (hsucceeds.1.trans hsucceeds.2.symm) hfirst
      refine ⟨hstep.mp hsame, (hrest _).mp fun n => ?_⟩
      have hlater := h (n + 1)
      rw [List.take_succ_cons] at hlater
      unfold runPostgres runSqlite at hlater ⊢
      rw [List.foldl_cons, List.foldl_cons, ← hfirst] at hlater
      exact hlater
    · intro h n
      cases n with
      | zero => rfl
      | succ n =>
        have hlater := (hrest _).mpr h.2 n
        rw [List.take_succ_cons]
        unfold runPostgres runSqlite at hlater ⊢
        rw [List.foldl_cons, List.foldl_cons, ← hstep.mpr h.1]
        exact hlater

def storedOid : OID :=
  { kind := .sensor, fullId := "a" }

def plainTexts : Texts String String where
  cfg := some
  state := some

def storedStates : Table OID String :=
  (AList.insert storedOid "1" ∅ : Table OID String)

def storedCalls : List (Call String String) :=
  [.saveItems [(storedOid, "1")], .saveStates storedStates, .destroyItems [storedOid],
    .saveItems [(storedOid, "1")]]

lemma storedItem_regular : RegularItems plainTexts [(storedOid, "1")] where
  item := by
    intro item hitem
    rw [List.mem_singleton.mp hitem]
    exact ⟨"1", rfl, by decide⟩
  once := by decide

theorem storages_agree_iff_destroyed : KeepStates plainTexts (fun _ => none) storedCalls ∧
      forall n, runPostgres plainTexts (fun _ => none) (storedCalls.take n) =
        runSqlite plainTexts (fun _ => none) (storedCalls.take n) := by
  have hregular : forall call, call ∈ storedCalls -> call.Regular plainTexts := by
    intro call hcall
    simp only [storedCalls, List.mem_cons, List.not_mem_nil, or_false] at hcall
    rcases hcall with h | h | h | h
    · rw [h]
      exact storedItem_regular
    · rw [h]
      intro s hs text htext
      have hs' : s = ⟨storedOid, "1"⟩ := List.mem_singleton.mp hs
      rw [hs'] at htext
      cases htext
      decide
    · rw [h]
      trivial
    · rw [h]
      exact storedItem_regular
  have hkeeps : KeepStates plainTexts (fun _ => none) storedCalls := by
    refine ⟨?_, trivial, trivial, ?_, trivial⟩
    · intro item hitem
      rfl
    · intro item hitem
      rw [List.mem_singleton.mp hitem]
      decide
  exact ⟨hkeeps, (storages_agree_iff plainTexts storedCalls hregular _).mpr hkeeps⟩

/-- A configuration that is saved again keeps the state of the item in Postgres and drops it
in SQLite. -/
theorem saved_again_drops_state :
    let calls : List (Call String String) := [.saveItems [(storedOid, "1")],
      .saveStates storedStates, .saveItems [(storedOid, "1")]]
    runPostgres plainTexts (fun _ => none) calls storedOid =
        some { cfg := "1", state := some "1" } ∧
      runSqlite plainTexts (fun _ => none) calls storedOid =
        some { cfg := "1", state := none } := by
  decide

end Eva4.InventoryDb
