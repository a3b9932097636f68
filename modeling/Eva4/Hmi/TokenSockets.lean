import Eva4.Lib.Machine
import Eva4.Lib.Table
import Eva4.Hmi.Session

/-!
# Websockets of tokens

The service keeps the websockets of each token in a table, to close them when the token is gone.
A logout deletes the token first and goes to the table then; the cleaner reads the ids of all
tokens first and goes to the table then.
-/

namespace Eva4.Hmi

open Lib Dialog
open Items

variable {V : Type}

/-!
## The table
-/

abbrev WebsocketTable : Type :=
  Table TokenId (List Nat)

namespace WebsocketTable

variable (table : WebsocketTable)

def registerWebsocket (token : TokenId) (ws : Nat) : WebsocketTable :=
  match AList.lookup token table with
  | some map => AList.insert token (map.insert ws) table
  | none => AList.insert token [ws] table

def sockets (token : TokenId) : List Nat :=
  (AList.lookup token table).getD []

lemma sockets_registerWebsocket :
    (table.registerWebsocket token ws).sockets other =
      if other = token then (table.sockets token).insert ws else table.sockets other := by
  unfold registerWebsocket sockets
  cases AList.lookup token table with
  | none | some =>
    rw [Table.lookup_insert_if]
    split
    · rfl
    · rfl

lemma mem_registerWebsocket {table : WebsocketTable} :
    n ∈ (table.registerWebsocket token ws).sockets other <->
      (other = token ∧ n = ws) ∨ n ∈ table.sockets other := by
  rw [sockets_registerWebsocket]
  split
  · next heq =>
    rw [List.mem_insert_iff, heq]
    constructor
    · intro h
      rcases h with hn | hold
      · exact Or.inl ⟨rfl, hn⟩
      · exact Or.inr hold
    · intro h
      rcases h with hn | hold
      · exact Or.inl hn.right
      · exact Or.inr hold
  · next hne =>
    constructor
    · exact Or.inr
    · intro h
      rcases h with hn | hold
      · exact absurd hn.left hne
      · exact hold

lemma sockets_erase : sockets (AList.erase token table) other =
      if other = token then [] else table.sockets other := by
  unfold sockets
  rw [Table.lookup_erase_if]
  split
  · rfl
  · rfl

lemma mem_keys_of_sockets {table : WebsocketTable} (h : ws ∈ table.sockets token) :
    token ∈ table.keys := by
  unfold sockets at h
  cases hmap : AList.lookup token table with
  | none =>
    rw [hmap] at h
    cases h
  | some map => exact Table.mem_iff_lookup.mpr ⟨map, hmap⟩

end WebsocketTable

/-!
## Connections and tasks
-/

/-- A connection that was opened with a token.  Its number is the id of the websocket. -/
structure Connection where
  token : TokenId
  registered : Bool
  unregistered : Bool
  terminated : Bool

def terminate (sockets : List Nat) (connections : List Connection) : List Connection :=
  connections.mapIdx fun ws conn => if ws ∈ sockets then { conn with terminated := true } else conn

inductive SocketTask (V : Type) where
  /-- The rest of a logout. -/
  | logout (dialog : Api V Unit)
  /-- The cleaner before it reads the ids. -/
  | clear
  /-- The cleaner before it goes to the table. -/
  | walk (ids : List TokenId)
  | done

structure TokenSockets (V : Type) where
  /-- The ids that have been used so far, kept for the record only. -/
  known : List TokenId
  tokens : List TokenId
  websockets : WebsocketTable
  connections : List Connection
  tasks : List (SocketTask V)

inductive SocketEvent (V : Type) where
  | create (id : TokenId)
  | dropTokens (keep : TokenId -> Bool)
  | connect (token : TokenId)
  | register (ws : Nat)
  | unregister (ws : Nat)
  | logout (id : TokenId)
  | clear
  | step (k : Nat) (answers : (c : HmiCall V) -> c.Answer) (failure : Option (Error × Bool))

namespace TokenSockets

variable (s : TokenSockets V)

def closeSockets (token : TokenId) : TokenSockets V :=
  { s with
    websockets := AList.erase token s.websockets
    connections := terminate (s.websockets.sockets token) s.connections }

/-- The websockets of all tokens that are not among the ids are closed. -/
def clearTokenWebsockets (ids : List TokenId) : TokenSockets V :=
  (s.websockets.keys.filter fun token => token ∉ ids).foldl closeSockets s

def registerWebsocket (s : TokenSockets V) (ws : Nat) (conn : Connection) :
    Option (TokenSockets V) :=
  if conn.registered then none
  else some
    { s with
      websockets := s.websockets.registerWebsocket conn.token ws
      connections := s.connections.set ws { conn with registered := true } }

/-- The connection stays in the table. -/
def unregisterWebsocket (ws : Nat) (conn : Connection) : TokenSockets V :=
  { s with
    connections := s.connections.set ws
      { conn with
        unregistered := true
        terminated := conn.terminated || decide (ws ∈ s.websockets.sockets conn.token) } }

def deleteToken (id : TokenId) : Option (Error × Bool) -> EResult Unit × TokenSockets V
  | none => (.ok (), { s with tokens := s.tokens.filter fun token => token ≠ id })
  | some (e, true) => (.error e, { s with tokens := s.tokens.filter fun token => token ≠ id })
  | some (e, false) => (.error e, s)

def respond (answers : (c : HmiCall V) -> c.Answer)
    (failure : Option (Error × Bool)) : (c : HmiCall V) -> c.Answer × TokenSockets V
  | .deleteToken id => s.deleteToken id failure
  | .closeWebsockets id => (.ok (), s.closeSockets id)
  | c => (answers c, s)

def setTask (k : Nat) (task : SocketTask V) : TokenSockets V :=
  { s with tasks := s.tasks.set k task }

def advance (k : Nat) (answers : (c : HmiCall V) -> c.Answer)
    (failure : Option (Error × Bool)) : SocketTask V -> Option (TokenSockets V)
  | .logout (.ask c next) =>
    let (answer, s') := s.respond answers failure c
    some (s'.setTask k (.logout (next answer)))
  | .clear =>
    match failure with
    | none => some (s.setTask k (.walk s.tokens))
    | some _ => some (s.setTask k .done)
  | .walk ids => some ((s.clearTokenWebsockets ids).setTask k .done)
  | _ => none

def create (id : TokenId) : Option (TokenSockets V) :=
  if id ∈ s.known then none
  else some { s with known := id :: s.known, tokens := id :: s.tokens }

def connect (token : TokenId) : Option (TokenSockets V) :=
  if token ∈ s.tokens then
    some { s with connections := s.connections ++ [⟨token, false, false, false⟩] }
  else none

def step : Machine (TokenSockets V) (SocketEvent V)
  | s, .create id => s.create id
  | s, .dropTokens keep => some { s with tokens := s.tokens.filter keep }
  | s, .connect token => s.connect token
  | s, .register ws => s.connections[ws]?.bind (s.registerWebsocket ws)
  | s, .unregister ws => s.connections[ws]?.map (s.unregisterWebsocket ws)
  | s, .logout id =>
    some { s with known := id :: s.known, tasks := s.tasks ++ [.logout (destroyToken id)] }
  | s, .clear => some { s with tasks := s.tasks ++ [.clear] }
  | s, .step k answers failure => s.tasks[k]?.bind (s.advance k answers failure)

def new : TokenSockets V where
  known := []
  tokens := []
  websockets := ∅
  connections := []
  tasks := []

/-- Websockets are terminated with their connections and tokens only, and the table has no
connection that was unregistered. -/
def FollowTokens : Prop :=
  (forall (ws : Nat) (conn : Connection), s.connections[ws]? = some conn ->
      conn.terminated = true -> conn.unregistered = true ∨ conn.token ∉ s.tokens) ∧
    forall (ws : Nat) (conn : Connection), s.connections[ws]? = some conn ->
      conn.unregistered = true -> forall token, ws ∉ s.websockets.sockets token

end TokenSockets

/-!
## The calls of a logout
-/

def KeepsTokens : HmiCall V -> Prop
  | .deleteToken _ => False
  | .closeWebsockets _ => False
  | _ => True

/-- The websockets of a token are closed after the token has been deleted. -/
def logoutRules (own : TokenId) : Dialog.Rules (HmiCall V) HmiCall.Answer Bool where
  answers := fun _ _ => True
  allowed
    | _, .deleteToken id => id = own
    | deleted, .closeWebsockets id => id = own ∧ deleted = true
    | _, _ => True
  next
    | _, .deleteToken _, answer => answer.isOk
    | deleted, _, _ => deleted

lemma asks_reportLogout {id : TokenId} :
    (reportLogout id : Api V Unit).Asks (fun _ _ => True) KeepsTokens := by
  refine Asks.bind (Asks.attempt (asks_ask (c := .loadToken id) trivial)) ?_
  intro loaded
  split
  · exact asks_tell trivial
  · exact Asks.ret ()

lemma destroyToken_follows :
    (destroyToken own : Api V Unit).Follows (logoutRules own) (fun _ _ => True) false := by
  have hreport : (reportLogout own : Api V Unit).Follows (logoutRules own)
      (fun deleted _ => deleted = false) false := by
    apply Follows.of_asks asks_reportLogout
    · intro c hc
      cases c with
      | deleteToken | closeWebsockets => exact False.elim hc
      | _ => trivial
    · intro c hc answer
      cases c with
      | deleteToken id => exact False.elim hc
      | _ => rfl
  have hdelete : (ask (.deleteToken own) : Api V Unit).Follows (logoutRules own)
      (fun deleted => onResult fun _ => deleted = true) false := by
    apply follows_ask (c := .deleteToken own) rfl
    intro answer _
    cases answer with
    | ok result => exact rfl
    | error e => trivial
  refine Follows.bind hreport ?_ fun _ _ _ => trivial
  intro deleted _ hdeleted
  refine Follows.bind hdelete ?_ fun _ _ _ => trivial
  intro deleted _ hdeleted
  have hclose : (ask (.closeWebsockets own) : Api V Unit).Follows (logoutRules own)
      (fun _ _ => True) deleted :=
    follows_ask (c := .closeWebsockets own) ⟨rfl, hdeleted⟩ fun _ _ => trivial
  exact Follows.bind (Follows.attempt (P := fun _ _ => True) hclose)
    (fun _ _ _ => trivial) fun _ _ _ => trivial

end Eva4.Hmi
