import Eva4.LocalAuth.KeyRequests

/-!
# One value for each API key

The two tables of the database stay inverse to each other through all requests.  A value that is
gone from them comes back with a request that brings it, or with a load if the registry still has
it.
-/

namespace Eva4.LocalAuth

open Lib Machine
open Items

def KeyEvent.brings : KeyEvent -> List String
  | .deploy keys _ => keys.map Key.key
  | .regenerate _ (.ok v) _ => [v]
  | _ => []

def KeyEvent.isLoad : KeyEvent -> Bool
  | .load _ => true
  | _ => false

namespace KeyService

/-!
## Memory
-/

variable {s s' : KeyService} {isAlphanumeric : Char -> Bool} {e : KeyEvent} {db : KeyDb}
  {v : String} {entries : List (String × Key)} {registry : Registry}

section

variable (hload : e.isLoad = false) (hstep : step isAlphanumeric s e = some s')
include hload hstep

theorem request_db {P : KeyDb -> Prop} (h : P s.db)
    (hremove : forall {db}, P db -> forall id, P (db.remove id))
    (hdeploy : forall keys failure, e = .deploy keys failure -> P (s.db.deploy keys).1)
    (hundeploy : forall ids, P (s.db.undeploy ids).1)
    (happend : forall {id v failure db' key}, e = .regenerate id (.ok v) failure ->
      s.db.get id = some key -> (s.db.remove id).append { key with key := v } = .ok db' -> P db') :
    P s'.db ∧ s'.ready = s.ready ∧ s.ready = true := by
  cases e with
  | load entries => cases hload
  | deploy keys failure =>
    rcases of_guard hstep with ⟨hready, rfl⟩
    have hdb := hdeploy keys failure rfl
    unfold deploy
    split
    · exact ⟨h, rfl, hready⟩
    · split
      · next db e heq =>
        rw [heq] at hdb
        exact ⟨hdb, rfl, hready⟩
      · next db heq =>
        rw [heq] at hdb
        exact ⟨hdb, rfl, hready⟩
  | undeploy ids failure =>
    rcases of_guard hstep with ⟨hready, rfl⟩
    exact ⟨hundeploy ids, rfl, hready⟩
  | destroy id failure =>
    rcases of_guard hstep with ⟨hready, rfl⟩
    unfold destroy
    split
    · exact ⟨hremove h id, rfl, hready⟩
    · exact ⟨h, rfl, hready⟩
  | regenerate id random failure =>
    rcases of_guard hstep with ⟨hready, rfl⟩
    unfold regenerate
    split
    · exact ⟨h, rfl, hready⟩
    · next key hkey =>
      split
      · exact ⟨hremove h id, rfl, hready⟩
      · next v =>
        dsimp only
        split
        · exact ⟨hremove h id, rfl, hready⟩
        · next db hdb => exact ⟨happend rfl hkey hdb, rfl, hready⟩

theorem request_ready : s'.ready = s.ready ∧ s.ready = true :=
  (request_db (P := fun _ => True) hload hstep trivial (fun _ _ => trivial)
    (fun _ _ _ => trivial) (fun _ => trivial) (fun _ _ _ => trivial)).right

lemma request_oneToOne (h : s.db.OneToOne) : s'.db.OneToOne := by
  apply (request_db hload hstep h ?_ ?_ ?_ ?_).left
  · exact fun hdb id => hdb.remove id
  · exact fun keys _ _ => h.deploy
  · exact fun ids => h.undeploy
  · intro id v failure db' key _ hkey happend
    have hid : key.id = id := (Inverse.left h hkey).left
    rw [← hid] at happend
    exact (h.append_removed happend).right

lemma request_getByK (hv : v ∉ e.brings) (h : s.db.getByK v = none) : s'.db.getByK v = none := by
  apply (request_db (P := fun db => db.getByK v = none) hload hstep h ?_ ?_ ?_ ?_).left
  · exact fun hdb id => KeyDb.getByK_remove hdb
  · intro keys failure he
    apply KeyDb.getByK_deploy h
    intro key hkey heq
    rw [he] at hv
    exact hv (List.mem_map.mpr ⟨key, hkey, heq⟩)
  · exact fun ids => KeyDb.getByK_undeploy h
  · intro id w failure db' key he _ happend
    rw [he] at hv
    rw [(KeyDb.append_ok happend).left, KeyDb.getByK_insert,
      if_neg fun heq => hv (List.mem_singleton.mpr heq)]
    exact KeyDb.getByK_remove h

end

/-!
## Loads
-/

lemma mem_entries_iff
    (hperm : entries.isPerm (registry.entries.map fun entry => (entry.1, entry.2)) = true) :
    (p, k) ∈ entries <-> registry.lookup p = some k := by
  rw [(List.isPerm_iff.mp hperm).mem_iff, List.mem_map]
  constructor
  · intro h
    rcases h with ⟨entry, hentry, heq⟩
    injection heq with hp hk
    have hlookup := (mem_iff_dlookup registry.nodupKeys entry).mp hentry
    rw [hp, hk] at hlookup
    exact hlookup
  · intro h
    exact ⟨⟨p, k⟩, (mem_iff_dlookup registry.nodupKeys ⟨p, k⟩).mpr h, rfl⟩

/-- Entries of the registry with one id have one value. -/
def LoadsDistinct (s : KeyService) : KeyEvent -> Prop
  | .load _ => forall {p q k l}, s.registry.lookup p = some k -> s.registry.lookup q = some l ->
      k.id = l.id -> k.key = l.key
  | _ => True

lemma load_oneToOne (hadmits : s.LoadsDistinct (.load entries))
    (hstep : step isAlphanumeric s (.load entries) = some s') : s'.db.OneToOne := by
  rcases of_guard hstep with ⟨hperm, rfl⟩
  unfold load
  split
  · next db hload =>
    apply KeyDb.empty_oneToOne.load hload
    · intro p q k l hk hl hid
      exact hadmits ((mem_entries_iff hperm).mp hk) ((mem_entries_iff hperm).mp hl) hid
    · intro p k l _ hl
      cases hl
  · exact KeyDb.empty_oneToOne

lemma step_oneToOne (h : s.db.OneToOne) (hadmits : s.LoadsDistinct e)
    (hstep : step isAlphanumeric s e = some s') : s'.db.OneToOne := by
  cases hload : e.isLoad with
  | false => exact request_oneToOne hload hstep h
  | true =>
    cases e with
    | load entries => exact load_oneToOne hadmits hstep
    | _ => cases hload

/-!
## The registry
-/

/-- The registry holds the keys of the database, each under its id. -/
def Agree (s : KeyService) : Prop :=
  forall id, s.registry.lookup id = s.db.get id

/-- No key of a deployment has, at its turn, the value of another key. -/
def noClash (db : KeyDb) : List Key -> Bool
  | [] => true
  | key :: rest =>
    ((db.remove key.id).getByK key.key).all (fun k => k.id = key.id) &&
      noClash ((db.remove key.id).insert key) rest

/-- The request destroys the key of an id, or gives it another value. -/
def TakesAway (isAlphanumeric : Char -> Bool) (db : KeyDb) (id : String) : KeyEvent -> Prop
  | .load _ => False
  | .deploy keys _ => checkSymbols isAlphanumeric keys = none ∧ exists pre key rest,
      keys = pre ++ key :: rest ∧ key.id = id ∧ noClash db pre = true
  | .undeploy ids _ => id ∈ ids
  | .destroy other _ | .regenerate other _ _ => other = id

/-- A request is complete: it is refused before it changes anything, or it is not rejected after
that and all its calls of the registry succeed.  A load finds every key under its own id. -/
def Complete (isAlphanumeric : Char -> Bool) (s : KeyService) : KeyEvent -> Prop
  | .load _ => forall {p k}, s.registry.lookup p = some k -> k.id = p
  | .deploy keys failure => checkSymbols isAlphanumeric keys ≠ none ∨
      (noClash s.db keys = true ∧ failure = none)
  | .undeploy _ failure => failure = none
  | .destroy id failure => s.db.get id = none ∨ failure = none
  | .regenerate id random failure => s.db.get id = none ∨ (failure = none ∧
      exists v, random = .ok v ∧ ((s.db.remove id).getByK v).all (fun k => k.id = id) = true)

lemma append_of_free (h : (db.getByK key.key).all (fun k => k.id = key.id) = true) :
    db.append key = .ok (db.insert key) := by
  rcases KeyDb.append_cases db with hok | hbusy
  · exact hok.left
  · rcases hbusy with ⟨k, hk, hne, _⟩
    rw [hk] at h
    exact absurd (of_decide_eq_true h) hne

section

variable {key : Key} {id : String} (h : db.get id = some key)
include h

lemma deploy_turn (hid : k.id = id) (hv : forall l, l ∈ k :: rest -> l.key ≠ key.key) :
    (db.deploy (k :: rest)).1.getByK key.key = none := by
  have hagain : db.deploy (k :: rest) = (db.remove k.id).deploy (k :: rest) := by
    rw [KeyDb.deploy, KeyDb.deploy, KeyDb.remove_of_none (KeyDb.get_remove_self _)]
  rw [hagain, hid]
  exact KeyDb.getByK_deploy (KeyDb.getByK_removed h) hv

lemma deploy_taken (hclash : noClash db pre = true) (hid : k.id = id)
    (hv : forall l, l ∈ pre ++ k :: rest -> l.key ≠ key.key) :
    (db.deploy (pre ++ k :: rest)).1.getByK key.key = none := by
  induction pre generalizing db with
  | nil => exact deploy_turn h hid hv
  | cons p pre ih =>
    by_cases hp : p.id = id
    · exact deploy_turn h hp hv
    · rcases Bool.and_eq_true_iff.mp hclash with ⟨hfree, hrest⟩
      rw [List.cons_append, KeyDb.deploy, append_of_free hfree]
      apply ih _ hrest
      · exact fun l hl => hv l (List.mem_cons_of_mem p hl)
      · rw [KeyDb.get_insert, if_neg (Ne.symm hp), KeyDb.get_remove, if_neg (Ne.symm hp)]
        exact h

lemma undeploy_taken (hid : id ∈ ids) : (db.undeploy ids).1.getByK key.key = none := by
  induction ids generalizing db with
  | nil => cases hid
  | cons head rest ih =>
    unfold KeyDb.undeploy
    by_cases heq : head = id
    · rw [heq, h]
      exact KeyDb.getByK_undeploy (KeyDb.getByK_removed h)
    · have hrest := List.mem_of_ne_of_mem (Ne.symm heq) hid
      split
      · apply ih _ hrest
        rw [KeyDb.get_remove, if_neg (Ne.symm heq)]
        exact h
      · exact ih h hrest

end

theorem taken_getByK {key : Key} {id : String} (h : s.db.get id = some key)
    (htaken : TakesAway isAlphanumeric s.db id e) (hstep : step isAlphanumeric s e = some s')
    (hv : key.key ∉ e.brings) : s'.db.getByK key.key = none := by
  cases e with
  | load entries => cases htaken
  | deploy keys failure =>
    rcases of_guard hstep with ⟨_, rfl⟩
    rcases htaken with ⟨hsymbols, pre, k, rest, hkeys, hid, hclash⟩
    have hdb : (s.db.deploy keys).1.getByK key.key = none := by
      rw [hkeys] at hv ⊢
      refine deploy_taken h hclash hid ?_
      exact fun l hl heq => hv (List.mem_map.mpr ⟨l, hl, heq⟩)
    rw [deploy, hsymbols]
    dsimp only
    generalize s.db.deploy keys = result at hdb
    rcases result with ⟨db, error⟩
    cases error with
    | some | none => exact hdb
  | undeploy ids failure =>
    rcases of_guard hstep with ⟨_, rfl⟩
    exact undeploy_taken h htaken
  | destroy other failure =>
    rcases of_guard hstep with ⟨_, rfl⟩
    cases htaken
    rw [destroy, h]
    exact KeyDb.getByK_removed h
  | regenerate other random failure =>
    rcases of_guard hstep with ⟨_, rfl⟩
    cases htaken
    have hremoved := KeyDb.getByK_removed h
    rw [regenerate, h]
    dsimp only
    split
    · exact hremoved
    · split
      · exact hremoved
      · next db happend =>
        show db.getByK key.key = none
        rw [(KeyDb.append_ok happend).left, KeyDb.getByK_insert,
          if_neg fun heq => hv (List.mem_singleton.mpr heq)]
        exact hremoved

lemma agree_deploy (hclash : noClash db keys = true)
    (h : forall id, registry.lookup id = db.get id) : (db.deploy keys).2 = none ∧
      forall id, (registry.applyAll (keys.map fun key => .keySet key.id key)).lookup id =
        (db.deploy keys).1.get id := by
  induction keys generalizing registry db with
  | nil => exact ⟨rfl, h⟩
  | cons key rest ih =>
    rcases Bool.and_eq_true_iff.mp hclash with ⟨hfree, hrest⟩
    have hdeploy : db.deploy (key :: rest) = ((db.remove key.id).insert key).deploy rest := by
      rw [KeyDb.deploy, append_of_free hfree]
    have hnext : forall id, (registry.insert key.id key).lookup id =
        ((db.remove key.id).insert key).get id := by
      intro id
      rw [Table.lookup_insert_if, KeyDb.get_insert, KeyDb.get_remove]
      split
      · rfl
      · exact h id
    rw [hdeploy]
    exact ih hrest hnext

lemma agree_undeploy (hone : db.OneToOne) (h : forall id, registry.lookup id = db.get id) :
    forall id, (registry.applyAll ((db.undeploy ids).2.map .keyDelete)).lookup id =
      (db.undeploy ids).1.get id := by
  induction ids generalizing registry db with
  | nil => exact h
  | cons head rest ih =>
    unfold KeyDb.undeploy
    split
    · next key hkey =>
      have hid : key.id = head := (Inverse.left hone hkey).left
      have hnext : forall id, (registry.erase key.id).lookup id = (db.remove head).get id := by
        intro id
        rw [Table.lookup_erase_if, KeyDb.get_remove, hid]
        split
        · rfl
        · exact h id
      exact ih (hone.remove head) hnext
    · exact ih hone h

lemma request_agree (hload : e.isLoad = false) (hstep : step isAlphanumeric s e = some s')
    (hcomplete : s.Complete isAlphanumeric e) (hone : s.db.OneToOne) (h : s.Agree) : s'.Agree := by
  cases e with
  | load entries => cases hload
  | deploy keys failure =>
    rcases of_guard hstep with ⟨_, rfl⟩
    unfold deploy
    split
    · exact h
    · next hsymbols =>
      rcases hcomplete with hinvalid | hok
      · exact absurd hsymbols hinvalid
      · rcases agree_deploy hok.left h with ⟨hnone, hagree⟩
        split
        · next db e heq =>
          rw [heq] at hnone
          cases hnone
        · next db heq =>
          rw [heq] at hagree
          rw [hok.right]
          exact hagree
  | undeploy ids failure =>
    rcases of_guard hstep with ⟨_, hs'⟩
    have hnone : failure = none := hcomplete
    rw [← hs', hnone]
    exact agree_undeploy hone h
  | destroy id failure =>
    rcases of_guard hstep with ⟨_, rfl⟩
    unfold destroy
    split
    · next key hkey =>
      rcases hcomplete with habsent | hnone
      · rw [habsent] at hkey
        cases hkey
      · rw [hnone]
        intro other
        show (s.registry.erase id).lookup other = (s.db.remove id).get other
        rw [Table.lookup_erase_if, KeyDb.get_remove]
        split
        · rfl
        · exact h other
    · exact h
  | regenerate id random failure =>
    rcases of_guard hstep with ⟨_, rfl⟩
    unfold regenerate
    split
    · exact h
    · next key hkey =>
      rcases hcomplete with habsent | hok
      · rw [habsent] at hkey
        cases hkey
      · rcases hok with ⟨hnone, v, hrandom, hfree⟩
        have hid : key.id = id := (Inverse.left hone hkey).left
        have happend : (s.db.remove id).append { key with key := v } =
            .ok ((s.db.remove id).insert { key with key := v }) := by
          apply append_of_free
          rw [hid]
          exact hfree
        rw [hrandom, hnone]
        simp only [happend]
        intro other
        show (s.registry.insert id { key with key := v }).lookup other =
          ((s.db.remove id).insert { key with key := v }).get other
        rw [Table.lookup_insert_if, KeyDb.get_insert, KeyDb.get_remove, hid]
        split
        · rfl
        · exact h other

theorem load_agree (hown : forall {p k}, s.registry.lookup p = some k -> k.id = p)
    (hperm : entries.isPerm (s.registry.entries.map fun entry => (entry.1, entry.2)) = true)
    (hload : KeyDb.empty.load entries = .ok db) (id : String) :
    s.registry.lookup id = db.get id := by
  have hids : (entries.map fun e => e.2.id) = entries.map Prod.fst := by
    apply List.map_congr_left
    intro e he
    exact hown ((mem_entries_iff hperm).mp he)
  have hnodup : (entries.map fun e => e.2.id).Nodup := by
    have hkeys : ((s.registry.entries.map fun entry => (entry.1, entry.2)).map Prod.fst).Nodup := by
      rw [List.map_map]
      exact s.registry.nodupKeys
    rw [hids]
    exact ((List.isPerm_iff.mp hperm).map Prod.fst).nodup_iff.mpr hkeys
  apply Option.ext
  intro key
  constructor
  · intro hkey
    have hself := KeyDb.get_load_self hload hnodup ((mem_entries_iff hperm).mpr hkey)
    rw [hown hkey] at hself
    exact hself
  · intro hkey
    rcases KeyDb.get_load hload hkey with hempty | hentry
    · cases hempty
    · rcases hentry with ⟨p, hp, hid⟩
      have hlookup := (mem_entries_iff hperm).mp hp
      rw [← hid, hown hlookup]
      exact hlookup

lemma distinct_of_complete (h : s.Complete isAlphanumeric e) : s.LoadsDistinct e := by
  cases e with
  | load entries =>
    intro p q k l hk hl hid
    have hp : p = q := (h hk).symm.trans (hid.trans (h hl))
    rw [hp, hl] at hk
    injection hk with hkl
    rw [hkl]
  | _ => trivial

/-- The database of a service that is not ready is empty; one that is ready agrees with the
registry. -/
structure Settled (s : KeyService) : Prop where
  one : s.db.OneToOne
  idle : s.ready = false -> s.db = KeyDb.empty
  agree : s.ready = true -> s.Agree

lemma start_settled {registry : Registry} : (start registry).Settled where
  one := KeyDb.empty_oneToOne
  idle _ := rfl
  agree hready := by cases hready

section

variable (h : s.Settled)
include h

lemma Settled.step (hcomplete : s.Complete isAlphanumeric e)
    (hstep : step isAlphanumeric s e = some s') : s'.Settled := by
  have hone := step_oneToOne h.one (distinct_of_complete hcomplete) hstep
  cases hload : e.isLoad with
  | false =>
    have hready := request_ready hload hstep
    refine ⟨hone, ?_, ?_⟩
    · intro hnot
      rw [hready.left, hready.right] at hnot
      cases hnot
    · exact fun _ => request_agree hload hstep hcomplete h.one (h.agree hready.right)
  | true =>
    cases e with
    | load entries =>
      rcases of_guard hstep with ⟨hperm, hs'⟩
      refine ⟨hone, ?_, ?_⟩
      · rw [← hs']
        unfold load
        split
        · intro hnot
          cases hnot
        · exact fun _ => rfl
      · rw [← hs']
        unfold load
        split
        · next db hdb => exact fun _ => load_agree hcomplete hperm hdb
        · intro hready
          cases hready
    | _ => cases hload

def Gone (s : KeyService) (v : String) : Prop :=
  forall p k, s.registry.lookup p = some k -> k.key ≠ v

lemma Settled.gone_of_getByK (hready : s.ready = true) (hnone : s.db.getByK v = none) :
    s.Gone v := by
  intro p k hk heq
  rw [h.agree hready p] at hk
  have hvalue : s.db.keysByK.lookup k.key = some k := (Inverse.left h.one hk).right
  rw [heq] at hvalue
  rw [KeyDb.getByK, hvalue] at hnone
  cases hnone

lemma Settled.getByK_of_gone (hgone : s.Gone v) : s.db.getByK v = none := by
  cases hready : s.ready with
  | false =>
    rw [h.idle hready]
    rfl
  | true =>
    cases hk : s.db.getByK v with
    | none => rfl
    | some k =>
      have hkey := Inverse.right h.one hk
      apply absurd hkey.left
      apply hgone k.id k
      rw [h.agree hready k.id]
      exact hkey.right

lemma Settled.gone_step (hcomplete : s.Complete isAlphanumeric e)
    (hstep : KeyService.step isAlphanumeric s e = some s') (hv : v ∉ e.brings) (hgone : s.Gone v) :
    s'.Gone v := by
  cases hload : e.isLoad with
  | false =>
    have hready := request_ready hload hstep
    apply (h.step hcomplete hstep).gone_of_getByK (hready.left.trans hready.right)
    exact request_getByK hload hstep hv (h.getByK_of_gone hgone)
  | true =>
    cases e with
    | load entries =>
      rcases of_guard hstep with ⟨_, hs'⟩
      have hregistry : s'.registry = s.registry := by
        rw [← hs']
        unfold load
        split <;> rfl
      unfold Gone
      rw [hregistry]
      exact hgone
    | _ => cases hload

end

/-!
## Whole runs
-/

/-- The tables hold the same keys, and a value authenticates as the one key that has it. -/
structure Exact (s : KeyService) : Prop where
  oneToOne : s.db.OneToOne
  authenticates : forall v key, s.authKey v = .ok key <-> s.db.get key.id = some key ∧ key.key = v
  oneKey : forall {i j k l}, s.db.get i = some k -> s.db.get j = some l -> k.key = l.key -> i = j

lemma authKey_ok_iff : s.authKey v = .ok key <-> s.db.getByK v = some key := by
  unfold authKey
  cases s.db.getByK v with
  | none | some => simp

lemma exact_of_oneToOne (h : s.db.OneToOne) : s.Exact where
  oneToOne := h
  authenticates v key := by
    rw [authKey_ok_iff]
    constructor
    · intro hkey
      exact (Inverse.right h hkey).symm
    · intro hkey
      have hvalue := (Inverse.left h hkey.left).right
      rw [hkey.right] at hvalue
      exact hvalue
  oneKey := by
    intro i j k l hk hl hkey
    have heq := Inverse.unique h hk hl hkey
    rw [← (Inverse.left h hk).left, heq, (Inverse.left h hl).left]

def Refused (s : KeyService) (v : String) : Prop :=
  forall key, s.authKey v ≠ .ok key

lemma refused_iff : s.Refused v <-> s.db.getByK v = none := by
  unfold Refused
  simp only [ne_eq, authKey_ok_iff]
  exact Option.eq_none_iff_forall_ne_some.symm

section

variable (isAlphanumeric : Char -> Bool)

/-- If entries of the registry with one id have one value whenever the service is loaded, the
tables are exact in every state, the value of a key that is destroyed or gets another one is
refused, and a value that is refused stays so until a request brings it or the service is loaded.
If moreover all requests are complete, it stays so through the loads, too. -/
theorem api_keys_one_to_one (isAlphanumeric : Char -> Bool) (registry : Registry) :
    (forall s, (step isAlphanumeric).Reaches LoadsDistinct (start registry) s -> s.Exact) ∧
    (forall s s' e key, (step isAlphanumeric).Reaches LoadsDistinct (start registry) s ->
      s.authKey key.key = .ok key -> TakesAway isAlphanumeric s.db key.id e ->
        step isAlphanumeric s e = some s' -> key.key ∉ e.brings -> s'.Refused key.key) ∧
    (forall s s' v, (step isAlphanumeric).Reaches LoadsDistinct (start registry) s ->
      s.Refused v -> (step isAlphanumeric).Reaches
        (fun _ e => e.isLoad = false ∧ v ∉ e.brings) s s' -> s'.Refused v) ∧
    (forall s s' v, (step isAlphanumeric).Reaches (Complete isAlphanumeric) (start registry) s ->
      s.ready = true -> s.Refused v -> (step isAlphanumeric).Reaches
        (fun s e => s.Complete isAlphanumeric e ∧ v ∉ e.brings) s s' -> s'.Refused v) := by
  have hexact : forall s, (step isAlphanumeric).Reaches LoadsDistinct (start registry) s ->
      s.Exact := by
    intro s hrun
    exact exact_of_oneToOne (hrun.invariant (I := fun s => s.db.OneToOne)
      KeyDb.empty_oneToOne fun h hadmits hstep => step_oneToOne h hadmits hstep)
  refine ⟨hexact, ?_, ?_, ?_⟩
  · intro s s' e key hrun hkey htaken hstep hv
    have hget := (((hexact s hrun).authenticates key.key key).mp hkey).left
    exact refused_iff.mpr (taken_getByK hget htaken hstep hv)
  · intro s s' v _ hrefused hrun
    rw [refused_iff] at hrefused ⊢
    exact hrun.invariant (I := fun s => s.db.getByK v = none) hrefused
      fun h hadmits hstep => request_getByK hadmits.left hstep hadmits.right h
  · intro s s' v hbefore hready hrefused hrun
    have hsettled : s.Settled := hbefore.invariant start_settled
      fun h hcomplete hstep => h.step hcomplete hstep
    rw [refused_iff] at hrefused ⊢
    have hlast := hrun.invariant (I := fun s => s.Settled ∧ s.Gone v)
      ⟨hsettled, hsettled.gone_of_getByK hready hrefused⟩
      fun h hadmits hstep => ⟨h.left.step hadmits.left hstep,
        h.left.gone_step hadmits.left hstep hadmits.right h.right⟩
    exact hlast.left.getByK_of_gone hlast.right

def checkComplete (s : KeyService) : KeyEvent -> Bool
  | .load _ => s.registry.entries.all fun entry => entry.2.id = entry.1
  | .deploy keys failure =>
    (checkSymbols isAlphanumeric keys).isSome || (noClash s.db keys && failure.isNone)
  | .undeploy _ failure => failure.isNone
  | .destroy _ failure => failure.isNone
  | .regenerate id (.ok v) failure =>
    failure.isNone && ((s.db.remove id).getByK v).all fun k => k.id = id
  | .regenerate id (.error _) _ => (s.db.get id).isNone

lemma complete_of_check (s : KeyService) (e : KeyEvent)
    (h : s.checkComplete isAlphanumeric e = true) : s.Complete isAlphanumeric e := by
  cases e with
  | load entries =>
    intro p k hk
    have hentry := (mem_iff_dlookup s.registry.nodupKeys ⟨p, k⟩).mpr hk
    exact of_decide_eq_true (List.all_eq_true.mp h ⟨p, k⟩ hentry)
  | deploy keys failure =>
    rcases Bool.or_eq_true_iff.mp h with hsymbols | hboth
    · exact Or.inl (Option.isSome_iff_ne_none.mp hsymbols)
    · rcases Bool.and_eq_true_iff.mp hboth with ⟨hclash, hnone⟩
      exact Or.inr ⟨hclash, Option.isNone_iff_eq_none.mp hnone⟩
  | undeploy ids failure => exact Option.isNone_iff_eq_none.mp h
  | destroy id failure => exact Or.inr (Option.isNone_iff_eq_none.mp h)
  | regenerate id random failure =>
    cases random with
    | error e => exact Or.inl (Option.isNone_iff_eq_none.mp h)
    | ok v =>
      rcases Bool.and_eq_true_iff.mp h with ⟨hnone, hfree⟩
      exact Or.inr ⟨Option.isNone_iff_eq_none.mp hnone, v, rfl, hfree⟩

def keyA (value : String) : Key :=
  ⟨"a", value, []⟩

def keyC : Key :=
  ⟨"c", "vc", []⟩

def twoKeys : Registry :=
  (AList.insert "a" (keyA "v1") ∅).insert "c" keyC

def twoEntries : List (String × Key) :=
  [("a", keyA "v1"), ("c", keyC)]

/-- The first value of a key is refused after a new one is deployed, also when the service is
loaded again. -/
theorem redeployed_value_refused :
    exists s s1 s', (step Char.isAlphanum).runChecked (checkComplete Char.isAlphanum)
        [.load twoEntries] (start twoKeys) = some s ∧
      (step Char.isAlphanum).runChecked (checkComplete Char.isAlphanum)
        [.deploy [keyA "v2"] none] s = some s1 ∧
      (step Char.isAlphanum).runChecked
        (fun s e => s.checkComplete Char.isAlphanum e && decide ("v1" ∉ e.brings))
        [.load [("a", keyA "v2"), ("c", keyC)]] s1 = some s' ∧
      s'.db.getByK "v2" = some (keyA "v2") ∧ s.Exact ∧ s1.Refused "v1" ∧ s'.Refused "v1" := by
  have hs : (step Char.isAlphanum).runChecked (checkComplete Char.isAlphanum) [.load twoEntries]
      (start twoKeys) = some _ := rfl
  have hs1 : (step Char.isAlphanum).runChecked (checkComplete Char.isAlphanum)
      [.deploy [keyA "v2"] none] ((start twoKeys).load twoEntries) = some _ := rfl
  have hs' : (step Char.isAlphanum).runChecked
      (fun s e => s.checkComplete Char.isAlphanum e && decide ("v1" ∉ e.brings))
      [.load [("a", keyA "v2"), ("c", keyC)]]
      (((start twoKeys).load twoEntries).deploy Char.isAlphanum [keyA "v2"] none).1 = some _ := rfl
  rcases api_keys_one_to_one Char.isAlphanum twoKeys with ⟨hexact, htaken, _, hrefused⟩
  have hreach := Reaches.of_runChecked (complete_of_check Char.isAlphanum) .start hs
  have hdistinct : (step Char.isAlphanum).Reaches LoadsDistinct (start twoKeys) _ :=
    .of_runChecked (fun s e h => distinct_of_complete (complete_of_check _ s e h)) .start hs
  have hgone := htaken _ _ (.deploy [keyA "v2"] none) (keyA "v1") hdistinct rfl
    ⟨rfl, [], keyA "v2", [], rfl, rfl, rfl⟩ rfl (by decide)
  refine ⟨_, _, _, hs, hs1, hs', rfl, hexact _ hdistinct, hgone, ?_⟩
  apply hrefused _ _ "v1" (.of_runChecked (complete_of_check _) hreach hs1) rfl hgone
  apply Reaches.of_runChecked _ .start hs'
  intro s e h
  rcases Bool.and_eq_true_iff.mp h with ⟨hcomplete, hv⟩
  exact ⟨complete_of_check _ s e hcomplete, of_decide_eq_true hv⟩

/-- In every run of complete requests, a restart of the service changes no key. -/
theorem restart_keeps_keys {isAlphanumeric : Char -> Bool} {registry : Registry} {s s' : KeyService}
    (hrun : (step isAlphanumeric).Reaches (Complete isAlphanumeric) (start registry) s)
    (hready : s.ready = true) (hload : step isAlphanumeric s (.load entries) = some s')
    (hready' : s'.ready = true) (id : String) : s'.db.get id = s.db.get id := by
  have hs : s.Settled := hrun.invariant start_settled
    fun h hcomplete hstep => h.step hcomplete hstep
  -- the keys in memory are under their own ids, so those of the registry are
  have hs' : s'.Settled := by
    refine hs.step ?_ hload
    intro p k hk
    rw [hs.agree hready p] at hk
    exact (Inverse.left hs.one hk).left
  have hregistry : s'.registry = s.registry := by
    rcases of_guard hload with ⟨_, rfl⟩
    unfold load
    split <;> rfl
  rw [← hs'.agree hready' id, hregistry, hs.agree hready id]

/-- A restart after a new value is deployed. -/
theorem restart_keeps_new_value : exists s s', (step Char.isAlphanum).runChecked
        (checkComplete Char.isAlphanum) [.load twoEntries, .deploy [keyA "v2"] none]
        (start twoKeys) = some s ∧
      step Char.isAlphanum s (.load [("a", keyA "v2"), ("c", keyC)]) = some s' ∧
      forall id, s'.db.get id = s.db.get id := by
  have hrun : (step Char.isAlphanum).runChecked (checkComplete Char.isAlphanum)
      [.load twoEntries, .deploy [keyA "v2"] none] (start twoKeys) = some _ := rfl
  exact ⟨_, _, hrun, rfl,
    restart_keeps_keys (.of_runChecked (complete_of_check _) .start hrun) rfl
      (show step _ _ (.load [("a", keyA "v2"), ("c", keyC)]) = _ from rfl) rfl⟩

def unreachable : RegistryFailure :=
  ⟨0, false, ⟨.io, "timeout"⟩⟩

/-- A value that was replaced authenticates again after a load if its deployment was rejected at
a later key; so does one that was destroyed while the registry could not be reached.  Two entries
of the registry with one id leave a value that leads to a key which is not there. -/
theorem refused_value_comes_back : (exists s s', (step Char.isAlphanum).runChecked (fun _ _ => true)
        [.load twoEntries, .deploy [keyA "v2", ⟨"b", "vc", []⟩] none] (start twoKeys) = some s ∧
      s.db.getByK "v1" = none ∧
      (step Char.isAlphanum).runChecked (fun _ _ => true) [.load twoEntries] s = some s' ∧
      s'.db.getByK "v1" = some (keyA "v1")) ∧
    (exists s s', (step Char.isAlphanum).runChecked (fun _ _ => true)
        [.load twoEntries, .destroy "a" (some unreachable)] (start twoKeys) = some s ∧
      s.db.getByK "v1" = none ∧
      (step Char.isAlphanum).runChecked (fun _ _ => true) [.load twoEntries] s = some s' ∧
      s'.db.getByK "v1" = some (keyA "v1")) ∧
    (exists s, (step Char.isAlphanum).runChecked (fun _ _ => true)
        [.load [("x", keyA "v1"), ("y", keyA "v2")]]
        (start ((AList.insert "x" (keyA "v1") ∅).insert "y" (keyA "v2"))) = some s ∧
      s.db.getByK "v1" = some (keyA "v1") ∧ s.db.get "a" = some (keyA "v2") ∧ ¬ s.Exact) := by
  refine ⟨⟨_, _, rfl, rfl, rfl, rfl⟩, ⟨_, _, rfl, rfl, rfl, rfl⟩, _, rfl, rfl, rfl, ?_⟩
  intro hexact
  have hkey := Inverse.right hexact.oneToOne (l := "v1") rfl
  exact absurd hkey.right (by decide)

/-!
## Failed deployments
-/

def SameDb (db db' : KeyDb) : Prop :=
  (forall id, db'.get id = db.get id) ∧ forall v, db'.getByK v = db.getByK v

def Holds (db : KeyDb) (key : Key) : Prop :=
  db.get key.id = some key ∧ db.getByK key.key = some key

/-- A deployment is complete; or its first key that is rejected is not there, and the keys
before it are there as they are. -/
def Harmless (s : KeyService) (keys : List Key) (failure : Option RegistryFailure) : Prop :=
  s.Complete isAlphanumeric (.deploy keys failure) ∨ exists pre key rest k,
    keys = pre ++ key :: rest ∧ (forall p, p ∈ pre -> Holds s.db p) ∧
      s.db.get key.id = none ∧ s.db.getByK key.key = some k ∧ k.id ≠ key.id

end

lemma holds_redeploy (h : Holds db key) :
    exists db', (db.remove key.id).append key = .ok db' ∧ SameDb db db' := by
  have hvalue : forall v, (db.remove key.id).getByK v =
      if v = key.key then none else db.getByK v := by
    intro v
    have hid : db.keysById.lookup key.id = some key := h.left
    rw [KeyDb.remove, hid]
    exact Table.lookup_erase_if v key.key db.keysByK
  refine ⟨_, append_of_free (by rw [KeyDb.getByK_removed h.left]; rfl), ?_, ?_⟩
  · intro id
    rw [KeyDb.get_insert, KeyDb.get_remove]
    split
    · next heq => rw [heq, h.left]
    · rfl
  · intro v
    rw [KeyDb.getByK_insert, hvalue]
    split
    · next heq => rw [heq, h.right]
    · rfl

lemma holds_deploy (h : forall p, p ∈ pre -> Holds db p) :
    exists db', SameDb db db' ∧ forall rest, db.deploy (pre ++ rest) = db'.deploy rest := by
  induction pre generalizing db with
  | nil => exact ⟨db, ⟨fun _ => rfl, fun _ => rfl⟩, fun _ => rfl⟩
  | cons key pre ih =>
    rcases holds_redeploy (h key List.mem_cons_self) with ⟨mid, happend, hmid⟩
    have hrest : forall p, p ∈ pre -> Holds mid p := by
      intro p hp
      have hold := h p (List.mem_cons_of_mem key hp)
      exact ⟨(hmid.left p.id).trans hold.left, (hmid.right p.key).trans hold.right⟩
    rcases ih hrest with ⟨db', hsame, hdeploy⟩
    refine ⟨db', ⟨fun id => (hsame.left id).trans (hmid.left id),
      fun v => (hsame.right v).trans (hmid.right v)⟩, ?_⟩
    intro rest
    rw [List.cons_append, KeyDb.deploy, happend]
    exact hdeploy rest

lemma deploy_rejected (hkey : db.get key.id = none) (hk : db.getByK key.key = some k)
    (hne : k.id ≠ key.id) : exists e, db.deploy (key :: rest) = (db, some e) := by
  rcases KeyDb.append_cases db with hok | ⟨k, _, _, herror⟩
  · exact absurd (hok.right k hk) hne
  · exact ⟨_, by rw [KeyDb.deploy, KeyDb.remove_of_none hkey, herror]⟩

/-- A harmless deployment that fails changes no key and nothing in the registry. -/
theorem failed_deploy_changes_nothing (h : s.Harmless isAlphanumeric keys failure)
    (herror : (s.deploy isAlphanumeric keys failure).2 = .error err) :
    SameDb s.db (s.deploy isAlphanumeric keys failure).1.db ∧
      (s.deploy isAlphanumeric keys failure).1.registry = s.registry := by
  unfold deploy at herror ⊢
  split
  · exact ⟨⟨fun _ => rfl, fun _ => rfl⟩, rfl⟩
  · next hsymbols =>
    rw [hsymbols] at herror
    rcases h with (hrefused | hcomplete) | ⟨pre, key, rest, k, hkeys, hpre, hid, hk, hne⟩
    · exact absurd hsymbols hrefused
    · have hdb : forall id, s.db.keysById.lookup id = s.db.get id := fun _ => rfl
      have hnone := (agree_deploy hcomplete.left hdb).left
      rw [← Prod.mk.eta (p := s.db.deploy keys), hnone, hcomplete.right] at herror
      cases herror
    · rcases holds_deploy hpre with ⟨db, hsame, hdeploy⟩
      have hkey := (hsame.left key.id).trans hid
      rcases deploy_rejected hkey ((hsame.right key.key).trans hk) hne with ⟨e, hrejected⟩
      rw [hkeys, hdeploy, hrejected]
      exact ⟨hsame, rfl⟩

def loaded : KeyService :=
  (start twoKeys).load twoEntries

/-- A new key with the value of another one is rejected and nothing has changed. -/
theorem new_key_rejected_harmless : exists e,
    (loaded.deploy Char.isAlphanum [keyA "v1", ⟨"b", "vc", []⟩] none).2 = .error e ∧
      SameDb loaded.db (loaded.deploy Char.isAlphanum [keyA "v1", ⟨"b", "vc", []⟩] none).1.db :=
  ⟨_, rfl, (failed_deploy_changes_nothing (Or.inr ⟨[keyA "v1"], ⟨"b", "vc", []⟩, [], keyC, rfl,
    List.forall_mem_singleton.mpr ⟨rfl, rfl⟩, rfl, rfl, by decide⟩) rfl).left⟩

/-- A key that is deployed with the value of another one is rejected, and is gone. -/
theorem rejected_key_removed : exists e,
    (loaded.deploy Char.isAlphanum [keyA "vc"] none).2 = .error e ∧
      loaded.db.get "a" = some (keyA "v1") ∧
      (loaded.deploy Char.isAlphanum [keyA "vc"] none).1.db.get "a" = none :=
  ⟨_, rfl, rfl, rfl⟩

end KeyService

end Eva4.LocalAuth
