import Eva4.Items.Basic

/-!
# Item states and their mutators

Every mutator gets the event id it may assign and the wall-clock time it may set,
so that it is a function of the state alone.
-/

namespace Eva4.Items

variable {V : Type}

def validateLogic [EvaCommon V] (value : Option V) (logic : Option Logic) : Bool :=
  match logic.bind Logic.range with
  | some range =>
    match value with
    | some v =>
      match EvaCommon.tryF64 v with
      | some val => EvaCommon.rangeMatches (V := V) range val
      | none => false
    | none => false
  | none => true

namespace ItemState

def new0 [EvaCommon V] (ieid : IEID) (tp : ItemKind) (now : F64) : ItemState V where
  status := 1
  value := EvaCommon.unit
  act := if tp = .unit then some 0 else none
  ieid := ieid
  t := now

variable (st : ItemState V)

/-- Used by lvar functions and core source sensors only. -/
def forceSetState (status : Option ItemStatus) (value : Option V)
    (ieid : IEID) (now : F64) : ItemState V :=
  { st with
    status := status.getD st.status
    value := value.getD st.value
    ieid := ieid
    t := now }

def forceSetValue (value : V) (ieid : IEID) (now : F64) : ItemState V :=
  { st with value := value, ieid := ieid, t := now }

def actDecr (ieid : IEID) (now : F64) : ItemState V :=
  { st with
    act := if st.act.getD 0 = 0 then st.act else some (st.act.getD 0 - 1)
    ieid := ieid
    t := now }

def actIncr (ieid : IEID) (now : F64) : ItemState V :=
  { st with
    act := some (match st.act with
      | none => 1
      | some a => a + 1)
    ieid := ieid
    t := now }

def setFromRs (rpl : ReplicationState V) : ItemState V where
  status := rpl.status
  value := rpl.value
  act := match rpl.act with
    | some act => some act
    | none => st.act
  ieid := rpl.ieid
  t := rpl.t

/-!
## Raw events
-/

variable (raw : RawStateEvent V)

def comparedMatch [EvaCommon V] : Bool :=
  (match raw.statusCompare with
    | some v => v == st.status
    | none => true) &&
    (match raw.valueCompare with
      | some v => v == st.value
      | none => true)

def rawStatus (compared : Bool) : ItemStatus :=
  if compared then raw.status else raw.statusElse.getD itemStatusError

def rawValue (compared : Bool) : Option V :=
  if compared then raw.value else raw.valueElse

/-- Status and value of the event, or the error status when the value is out of range. -/
def setStatusValue [EvaCommon V] (status : ItemStatus)
    (value : Option V) (logic : Option Logic) : Bool × ItemState V :=
  if status == itemStatusError || validateLogic value logic then
    match value with
    | some val =>
      if st.value == val then (st.status != status, { st with status := status })
      else (true, { st with status := status, value := val })
    | none => (st.status != status, { st with status := status })
  else (true, { st with status := itemStatusError })

def setTime (t : Option F64) : Bool × ItemState V :=
  match t with
  | some t =>
    if F64.eq t F64.zero || F64.eq st.t t then (false, st)
    else (true, { st with t := t })
  | none => (false, st)

variable (logic : Option Logic)

/-- Returns true if the state is changed, no matter whether the event is forced. -/
def setFromRaw [EvaCommon V] (ieid : IEID) (time : F64) : Bool × ItemState V :=
  let compared := st.comparedMatch raw
  let sv := st.setStatusValue (rawStatus raw compared) (rawValue raw compared) logic
  let st' := sv.2.setTime raw.t
  let modified := sv.1 || st'.1
  if modified || raw.force != .none then
    (modified, { st'.2 with ieid := ieid, t := if raw.t.isNone then time else st'.2.t })
  else (false, st'.2)

def toDbState : DbState V where
  status := st.status
  value := st.value
  ieid := st.ieid
  t := st.t

/-!
## What changes
-/

/-- Two states agree in everything but the event id. -/
def SameContent (a b : ItemState V) : Prop :=
  a.status = b.status ∧ a.value = b.value ∧ a.act = b.act ∧ a.t = b.t

lemma SameContent.refl : SameContent a a :=
  ⟨rfl, rfl, rfl, rfl⟩

lemma setStatusValue_same_iff [EvaCommon V] (status : ItemStatus) (value : Option V) :
    (st.setStatusValue status value logic).1 = false <->
      (status = itemStatusError ∨ validateLogic value logic = true) ∧
        (forall val, value = some val -> (st.value == val) = true) ∧ st.status = status := by
  unfold setStatusValue
  cases hvalid : status == itemStatusError || validateLogic value logic
  · simp_all
  · cases value with
    | none => simp_all
    | some val => cases hval : st.value == val <;> simp_all

variable {logic} in
lemma setStatusValue_unchanged [EvaCommon V] {st : ItemState V} {status : ItemStatus}
    {value : Option V} (h : (st.setStatusValue status value logic).1 = false) :
    (st.setStatusValue status value logic).2 = st := by
  rcases (st.setStatusValue_same_iff logic status value).mp h with ⟨hvalid, hvalue, hstatus⟩
  unfold setStatusValue
  rw [if_pos (by simpa using hvalid), ← hstatus]
  cases value with
  | none => rfl
  | some val => simp only [hvalue val rfl, if_true]

lemma setTime_same_iff (t : Option F64) : (st.setTime t).1 = false <->
    forall t', t = some t' -> F64.eq t' F64.zero = true ∨ F64.eq st.t t' = true := by
  unfold setTime
  cases t with
  | none => simp
  | some t => cases hskip : F64.eq t F64.zero || F64.eq st.t t <;> simp_all

lemma setTime_unchanged {st : ItemState V} {t : Option F64} (h : (st.setTime t).1 = false) :
    (st.setTime t).2 = st := by
  have hskip := (st.setTime_same_iff t).mp h
  unfold setTime
  cases t with
  | none => rfl
  | some t => simp [hskip t rfl]

lemma setFromRaw_unchanged [EvaCommon V] {ieid : IEID} {time : F64} (hforce : raw.force = .none)
    (h : (st.setFromRaw raw logic ieid time).1 = false) :
    (st.setFromRaw raw logic ieid time).2 = st := by
  unfold setFromRaw at h ⊢
  dsimp only at h ⊢
  split at h
  · next hmodified => simp_all
  · next hmodified =>
    simp only [hforce, bne_self_eq_false, Bool.or_false, Bool.not_eq_true, Bool.or_eq_false_iff]
      at hmodified
    rw [if_neg (by simp_all), setTime_unchanged hmodified.right,
      setStatusValue_unchanged hmodified.left]

/-- An event either leaves the state as it was or assigns the event id. -/
theorem setFromRaw_cases [EvaCommon V] (ieid : IEID) (time : F64) :
    (st.setFromRaw raw logic ieid time).2 = st ∨
      (st.setFromRaw raw logic ieid time).2.ieid = ieid := by
  cases hflag : (st.setFromRaw raw logic ieid time).1 || raw.force != .none
  · simp only [Bool.or_eq_false_iff, bne_eq_false_iff_eq] at hflag
    exact Or.inl (st.setFromRaw_unchanged raw logic hflag.right hflag.left)
  · right
    unfold setFromRaw at hflag ⊢
    dsimp only at hflag ⊢
    split at hflag <;> simp_all

/-!
## The content after an event
-/

lemma setStatusValue_frame [EvaCommon V] (status : ItemStatus) (value : Option V)
    (logic : Option Logic) :
    (st.setStatusValue status value logic).2.act = st.act ∧
      (st.setStatusValue status value logic).2.t = st.t := by
  unfold setStatusValue
  split
  · cases value with
    | none => exact ⟨rfl, rfl⟩
    | some val =>
      simp only
      split <;> exact ⟨rfl, rfl⟩
  · exact ⟨rfl, rfl⟩

section

variable {a b : ItemState V} (hstatus : a.status = b.status) (hvalue : a.value = b.value)
include hstatus hvalue

lemma setStatusValue_congr [EvaCommon V] (status : ItemStatus) (value : Option V)
    (logic : Option Logic) :
    (a.setStatusValue status value logic).1 = (b.setStatusValue status value logic).1 ∧
      (a.setStatusValue status value logic).2.status =
        (b.setStatusValue status value logic).2.status ∧
      (a.setStatusValue status value logic).2.value =
        (b.setStatusValue status value logic).2.value := by
  unfold setStatusValue
  rw [hstatus, hvalue]
  split
  · cases value with
    | none => exact ⟨rfl, rfl, rfl⟩
    | some val =>
      simp only
      split <;> exact ⟨rfl, rfl, rfl⟩
  · exact ⟨rfl, rfl, rfl⟩

lemma comparedMatch_congr [EvaCommon V] (raw : RawStateEvent V) :
    a.comparedMatch raw = b.comparedMatch raw := by
  unfold comparedMatch
  rw [hstatus, hvalue]

def setFromRawStatus [EvaCommon V] : Bool × ItemState V :=
  st.setStatusValue (rawStatus raw (st.comparedMatch raw))
    (rawValue raw (st.comparedMatch raw)) logic

lemma setFromRawStatus_congr [EvaCommon V] {raw : RawStateEvent V} {logic : Option Logic} :
    (a.setFromRawStatus raw logic).1 = (b.setFromRawStatus raw logic).1 ∧
      (a.setFromRawStatus raw logic).2.status = (b.setFromRawStatus raw logic).2.status ∧
      (a.setFromRawStatus raw logic).2.value = (b.setFromRawStatus raw logic).2.value := by
  unfold setFromRawStatus
  rw [comparedMatch_congr hstatus hvalue]
  exact setStatusValue_congr hstatus hvalue _ _ logic

end

/-- The time an event leaves: its own unless it is zero, or the clock if it has none. -/
theorem setFromRaw_content [EvaCommon V] (ieid : IEID) (time : F64) :
    (st.setFromRaw raw logic ieid time).2.status = (st.setFromRawStatus raw logic).2.status ∧
      (st.setFromRaw raw logic ieid time).2.value = (st.setFromRawStatus raw logic).2.value ∧
      (st.setFromRaw raw logic ieid time).2.act = st.act ∧
      (st.setFromRaw raw logic ieid time).2.t =
        match raw.t with
        | some t => if F64.eq t F64.zero then st.t else t
        | none =>
          if (st.setFromRawStatus raw logic).1 || raw.force != .none then time
          else st.t := by
  have hframe : (st.setFromRawStatus raw logic).2.act = st.act ∧
      (st.setFromRawStatus raw logic).2.t = st.t :=
    st.setStatusValue_frame _ _ logic
  have hdef : st.setFromRaw raw logic ieid time =
      let sv := st.setFromRawStatus raw logic
      let st' := sv.2.setTime raw.t
      if (sv.1 || st'.1) || raw.force != .none then
        (sv.1 || st'.1, { st'.2 with ieid := ieid, t := if raw.t.isNone then time else st'.2.t })
      else (false, st'.2) := rfl
  rw [hdef]
  generalize st.setFromRawStatus raw logic = sv at hframe
  cases ht : raw.t with
  | none =>
    simp only [setTime, Bool.or_false, Option.isNone_none, if_true]
    split
    · exact ⟨rfl, rfl, hframe.left, rfl⟩
    · exact ⟨rfl, rfl, hframe.left, hframe.right⟩
  | some t =>
    simp only [setTime, Option.isNone_some, Bool.false_eq_true, if_false]
    cases hzero : F64.eq t F64.zero with
    | true =>
      simp only [Bool.true_or, if_true, Bool.or_false]
      split
      · exact ⟨rfl, rfl, hframe.left, hframe.right⟩
      · exact ⟨rfl, rfl, hframe.left, hframe.right⟩
    | false =>
      cases hsame : F64.eq sv.2.t t with
      | true =>
        simp only [Bool.or_true, if_true, Bool.or_false, Bool.false_eq_true, if_false]
        have heq := F64.eq_of_eq hsame
        split
        · exact ⟨rfl, rfl, hframe.left, heq⟩
        · exact ⟨rfl, rfl, hframe.left, heq⟩
      | false =>
        simp only [Bool.or_false, Bool.or_true, Bool.true_or, if_true, Bool.false_eq_true, if_false]
        exact ⟨trivial, trivial, hframe.left, trivial⟩

/-!
## What is reported
-/

/-- The event asks for the error status, or its value is in the range of the item. -/
def InRange [EvaCommon V] : Prop :=
  rawStatus raw (st.comparedMatch raw) = itemStatusError ∨
    validateLogic (rawValue raw (st.comparedMatch raw)) logic = true

/-- The value and the time the event brings are found equal to those of the state, and the value
is not out of range. -/
def FindsSame [EvaCommon V] : Prop :=
  st.InRange raw logic ∧
  (forall val, rawValue raw (st.comparedMatch raw) = some val -> (st.value == val) = true) ∧
  forall t, raw.t = some t -> F64.eq t F64.zero = true ∨ F64.eq st.t t = true

/-- The event brings the status, the value and the time that the state has; out of range, the
item has failed before. -/
def BringsSame [EvaCommon V] (time : F64) : Prop :=
  (st.InRange raw logic -> rawStatus raw (st.comparedMatch raw) = st.status ∧
    forall val, rawValue raw (st.comparedMatch raw) = some val ->
      (st.value == val) = true ∨ val = st.value) ∧
  (¬ st.InRange raw logic -> itemStatusError = st.status) ∧
  (forall t, raw.t = some t -> F64.eq t F64.zero = true ∨ t = st.t) ∧
  (raw.t = none -> time = st.t)

def SameData (a b : ItemState V) : Prop :=
  a.status = b.status ∧ a.value = b.value ∧ a.t = b.t

lemma setFromRaw_modified [EvaCommon V] (ieid : IEID) (time : F64) :
    (st.setFromRaw raw logic ieid time).1 =
      ((st.setFromRawStatus raw logic).1 || (st.setTime raw.t).1) := by
  have hframe := (st.setStatusValue_frame (rawStatus raw (st.comparedMatch raw))
    (rawValue raw (st.comparedMatch raw)) logic).right
  have htime : ((st.setFromRawStatus raw logic).2.setTime raw.t).1 = (st.setTime raw.t).1 := by
    unfold setTime
    rw [setFromRawStatus, hframe]
    split
    · split <;> rfl
    · rfl
  rw [← htime]
  unfold setFromRaw setFromRawStatus
  dsimp only
  split <;> simp_all

lemma setFromRaw_same_iff [EvaCommon V] (ieid : IEID) (time : F64) :
    (st.setFromRaw raw logic ieid time).1 = false <->
      st.FindsSame raw logic ∧ st.status = rawStatus raw (st.comparedMatch raw) := by
  rw [setFromRaw_modified, Bool.or_eq_false_iff, setFromRawStatus, setStatusValue_same_iff,
    setTime_same_iff, FindsSame, InRange]
  tauto

lemma setFromRawStatus_same_iff [EvaCommon V] :
    ((st.setFromRawStatus raw logic).2.status = st.status ∧
      (st.setFromRawStatus raw logic).2.value = st.value) <->
    (st.InRange raw logic -> rawStatus raw (st.comparedMatch raw) = st.status ∧
      forall val, rawValue raw (st.comparedMatch raw) = some val ->
        (st.value == val) = true ∨ val = st.value) ∧
    (¬ st.InRange raw logic -> itemStatusError = st.status) := by
  unfold setFromRawStatus setStatusValue InRange
  generalize rawStatus raw (st.comparedMatch raw) = status
  generalize rawValue raw (st.comparedMatch raw) = value
  by_cases hrange : status = itemStatusError ∨ validateLogic value logic = true
  · rw [if_pos (by simpa using hrange)]
    cases value with
    | none => simp [hrange]
    | some val => cases hval : st.value == val <;> simp [hrange, hval]
  · rw [if_neg (by simpa using hrange)]
    simp [hrange]

lemma sameData_iff [EvaCommon V] {ieid : IEID} {time : F64} (hforce : raw.force = .none)
    (hmodified : (st.setFromRaw raw logic ieid time).1 = true) :
    SameData (st.setFromRaw raw logic ieid time).2 st <-> st.BringsSame raw logic time := by
  rcases st.setFromRaw_content raw logic ieid time with ⟨hstatus, hvalue, -, ht⟩
  have htime : (st.setFromRaw raw logic ieid time).2.t = st.t <->
      (forall t, raw.t = some t -> F64.eq t F64.zero = true ∨ t = st.t) ∧
        (raw.t = none -> time = st.t) := by
    rw [setFromRaw_modified] at hmodified
    rw [ht, hforce]
    cases hraw : raw.t with
    | none =>
      have hchanged : (st.setFromRawStatus raw logic).1 = true := by
        simpa [hraw, setTime] using hmodified
      simp [hchanged]
    | some t => cases hzero : F64.eq t F64.zero <;> simp [hzero]
  unfold SameData BringsSame
  rw [hstatus, hvalue, htime, ← and_assoc, setFromRawStatus_same_iff, and_assoc]

/-- Changes and nothing else are reported if and only if an event that brings the same data
finds it equal and in range. -/
theorem change_reported_iff [EvaCommon V] (hforce : raw.force = .none) (ieid : IEID) (time : F64) :
    let r := st.setFromRaw raw logic ieid time
    ((r.1 = true <-> ¬ SameData r.2 st) ∧ (r.1 = false -> r.2 = st)) <->
      (st.BringsSame raw logic time -> st.FindsSame raw logic) := by
  intro r
  have hfalse : r.1 = false <-> _ := st.setFromRaw_same_iff raw logic ieid time
  have hkept : r.1 = false -> r.2 = st := st.setFromRaw_unchanged raw logic hforce
  rw [and_iff_left hkept]
  cases hflag : r.1 with
  | false =>
    rw [hkept hflag]
    exact iff_of_true (by simp [SameData]) fun _ => (hfalse.mp hflag).left
  | true =>
    have hsame : SameData r.2 st <-> st.BringsSame raw logic time :=
      st.sameData_iff raw logic hforce hflag
    -- what is found equal, with the status asked for, is not reported
    have hfinds : st.BringsSame raw logic time -> ¬ st.FindsSame raw logic := by
      intro hbrings hfinds
      have hnot := hfalse.mpr ⟨hfinds, (hbrings.left hfinds.left).left.symm⟩
      rw [hflag] at hnot
      cases hnot
    rw [hsame]
    tauto

def upTo100 : Option Logic :=
  some { range := some { min := none, max := some (.fin 100), minEq := false, maxEq := true } }

def failedState : ItemState (Option Int) where
  status := itemStatusError
  value := some 5
  act := none
  ieid := { bootId := 1, t := 1 }
  t := .fin 7

theorem recovery_reported :
    (failedState.setFromRaw { status := 1, value := some (some 50) } upTo100 { bootId := 1, t := 2 }
      (.fin 9)).1 = true :=
  ((failedState.change_reported_iff _ upTo100 rfl _ _).mpr
    fun h => absurd (h.left (Or.inr rfl)).left (by decide)).left.mpr
      fun h => absurd h.left (by decide)

/-- A value that is out of range again, at the same time, changes the event id only. -/
theorem repeated_failure_reported :
    failedState.setFromRaw { status := 1, value := some (some 200), t := some (.fin 7) } upTo100
      { bootId := 1, t := 2 } (.fin 9) =
        (true, { failedState with ieid := { bootId := 1, t := 2 } }) := by
  decide

/-- An event without a value means its status if and only if it is the error status or the item
has no range. -/
theorem status_meant_iff [EvaCommon V] (hvalue : raw.value = none)
    (hcompared : st.comparedMatch raw = true) (ieid : IEID) (time : F64) :
    ((st.setFromRaw raw logic ieid time).2.status = raw.status ∧
      (st.setFromRaw raw logic ieid time).2.value = st.value) <->
    (raw.status = itemStatusError ∨ logic.bind Logic.range = none) := by
  have hcontent := st.setFromRaw_content raw logic ieid time
  rw [hcontent.left, hcontent.right.left]
  unfold setFromRawStatus setStatusValue validateLogic
  simp only [hcompared, rawStatus, rawValue, hvalue, if_true]
  by_cases herror : raw.status = itemStatusError
  · simp [herror]
  · cases hrange : logic.bind Logic.range <;> simp [herror, Ne.symm herror]

theorem failure_meant :
    (failedState.setFromRaw { status := -1 } upTo100 { bootId := 1, t := 2 } (.fin 9)).2.status =
      -1 :=
  ((failedState.status_meant_iff _ upTo100 rfl rfl _ _).mpr (Or.inl rfl)).left

/-- The value is in range, and a status without a value makes the item fail. -/
theorem status_not_meant : validateLogic (some failedState.value) upTo100 = true ∧
    (({ failedState with status := 1 }).setFromRaw { status := 2 } upTo100 { bootId := 1, t := 2 }
      (.fin 9)).2.status = itemStatusError := by
  decide

end ItemState

end Eva4.Items
