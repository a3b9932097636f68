import Mathlib.Data.List.Count
import Eva4.Lib.Table
import Eva4.Items.Basic

/-!
# User data

Users store values in a table of the HMI service, each under its login and a key.  The number of
the records of a login and their lengths are limited, and PostgreSQL has limits of its own.
-/

namespace Eva4.Hmi

open Lib Items

structure UserDataKey where
  login : String
  k : String
deriving DecidableEq

abbrev UserData : Type :=
  Table UserDataKey String

inductive DbKind where
  | sqlite | postgres
deriving DecidableEq

namespace UserData

def count (data : UserData) (login : String) : Nat :=
  data.keys.countP fun record => record.login = login

variable (kind : DbKind) (refused : Error)

/-- PostgreSQL takes no text with a NUL character. -/
def bindText (text : String) : EResult Unit :=
  if kind = .postgres ∧ Char.ofNat 0 ∈ text.toList then .error refused else .ok ()

/-- The text in a column `VARCHAR(width)`: PostgreSQL cuts off blanks and nothing else. -/
def column (width : Nat) (text : String) : EResult String :=
  if kind = .sqlite then .ok text
  else if (text.toList.drop width).any (· ≠ ' ') then .error refused
  else .ok (String.ofList (text.toList.take width))

variable (maxRecords maxRecordLen : Nat)

/-- Values are written as JSON texts.  The database may refuse a text with its own error. -/
def setUserData (toJson : V -> EResult String) (data : UserData) (login key : String)
    (value : V) : EResult UserData := do
  bindText kind refused login
  bindText kind refused key
  if data.count login >= maxRecords then
    .error {
      kind := .accessDenied
      message := "user data records (" ++ toString (data.count login) ++ ") exceed the limit" }
  else
    let text <- toJson value
    if text.utf8ByteSize > maxRecordLen then
      .error {
        kind := .accessDenied
        message := "the record length (" ++ toString text.utf8ByteSize ++ ") exceeds the limit" }
    else
      bindText kind refused text
      return data.insert ⟨<- column kind refused 64 login, <- column kind refused 128 key⟩
        (<- column kind refused 16384 text)

/-- A request succeeds as long as the login has no more records than are allowed after it, and
changes nothing but its own record. -/
structure Quota (data : UserData) (login key text : String) (result : EResult UserData) :
    Prop where
  succeeds : (exists data', result = .ok data') <->
    count (data.insert ⟨login, key⟩ text) login <= maxRecords
  stores : forall {data'}, result = .ok data' -> forall k,
    data'.lookup k = if k = ⟨login, key⟩ then some text else data.lookup k

def Fits (login key text : String) : Prop :=
  kind = .postgres -> Char.ofNat 0 ∉ (login ++ key ++ text).toList ∧
    login.length <= 64 ∧ key.length <= 128 ∧ text.length <= 16384

variable {data : UserData} {login : String} {kind refused maxRecords maxRecordLen}

lemma bindText_ok (h : kind = .postgres -> Char.ofNat 0 ∉ text.toList) :
    bindText kind refused text = .ok () :=
  if_neg fun hboth => h hboth.left hboth.right

lemma column_ok {text : String} (h : kind = .postgres -> text.length <= width) :
    column kind refused width text = .ok text := by
  cases kind with
  | sqlite => rfl
  | postgres =>
    have hlen : text.toList.length <= width := by
      rw [String.length_toList]
      exact h rfl
    unfold column
    rw [List.drop_eq_nil_of_le hlen, List.take_of_length_le hlen, String.ofList_toList]
    simp

lemma count_insert : count (data.insert ⟨login, key⟩ text) login =
      if ⟨login, key⟩ ∈ data then data.count login else data.count login + 1 := by
  have hself : decide (login = login) = true := decide_eq_true rfl
  unfold count
  rw [AList.keys_insert, List.countP_cons, if_pos hself, List.countP_erase]
  by_cases hmem : ⟨login, key⟩ ∈ data
  · rw [if_pos ⟨hmem, hself⟩, if_pos hmem]
    exact Nat.sub_add_cancel (List.countP_pos_iff.mpr ⟨⟨login, key⟩, hmem, hself⟩)
  · rw [if_neg fun h => hmem h.left, if_neg hmem]
    rfl

section

variable {toJson : V -> EResult String} (htext : toJson value = .ok text)
  (hlen : text.utf8ByteSize <= maxRecordLen) (hfits : Fits kind login key text)
include htext hlen hfits

lemma setUserData_ok_iff :
    setUserData kind refused maxRecords maxRecordLen toJson data login key value =
      .ok data' <-> data.count login < maxRecords ∧ data' = data.insert ⟨login, key⟩ text := by
  have hbound : forall s, (forall c, c ∈ s.toList -> c ∈ (login ++ key ++ text).toList) ->
      bindText kind refused s = .ok () :=
    fun s hs => bindText_ok fun hkind h => (hfits hkind).left (hs _ h)
  rw [setUserData, hbound login (by simp_all), hbound key (by simp_all), htext]
  simp only [bind, Except.bind]
  rcases Nat.lt_or_ge (data.count login) maxRecords with hlt | hge
  · rw [if_neg (Nat.not_le_of_lt hlt), if_neg (Nat.not_lt_of_le hlen), hbound text (by simp_all),
      column_ok fun h => (hfits h).right.left, column_ok fun h => (hfits h).right.right.left,
      column_ok fun h => (hfits h).right.right.right]
    simp [pure, Except.pure, hlt, eq_comm]
  · rw [if_pos hge]
    exact ⟨(by cases ·), fun h => absurd h.left (Nat.not_lt_of_le hge)⟩

end

def oneRecord : UserData :=
  AList.insert ⟨"admin", "theme"⟩ "1" ∅

end UserData

end Eva4.Hmi
