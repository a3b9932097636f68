import Eva4.AclSvc.Format
import Eva4.Hmi.Session

/-!
# Revoked access

Websockets that were opened with API keys are kept in a table of their own.  When an ACL or a key
changes, those that depend on it are closed; they are found by the id of the ACL or of the key.
-/

namespace Eva4.Hmi

open Lib
open Items
open AclSvc (AclValue AclStore AclData FormatConfig IdOrList formatAcl foundIds aclNone)

/-!
## Websockets without tokens
-/

/-- A websocket that was opened with an API key.  The ACL was formatted for the key, and is what
the service has decoded. -/
structure KeySocket (isAlphanumeric : Char -> Bool) (V : Type) [DecidableEq V] [AclValue V]
    where
  config : FormatConfig
  store : AclStore isAlphanumeric V
  request : IdOrList
  keyId : String
  data : AclData V
  formatted : formatAcl config store request (some keyId) = .ok data
  acl : Acl
  sameId : acl.id = data.id
  sameFrom : acl.fromIds = data.fromIds
  sameKey : acl.apiKeyId = data.apiKeyId
  auth : Auth
  authenticated : exists k, acl.apiKeyId = some k ∧ auth = .key ("." ++ k) acl

def aclModifiedKeep (aclId : String) : Auth -> Bool
  | .key _ acl => acl.id != aclId
  | .token _ => true

def keyModifiedKeep (keyId : String) : Auth -> Bool
  | .key id _ => id != "." ++ keyId
  | .token _ => true

inductive AaaEvent where
  | acl (id : String)
  | key (id : String)
  | user (login : String)

section Table

variable {isAlphanumeric : Char -> Bool} {V : Type} [DecidableEq V] [AclValue V]

variable (sockets : Table String (KeySocket isAlphanumeric V))

def removeWebsocketByAclId (aclId : String) : Table String (KeySocket isAlphanumeric V) :=
  Table.retain (fun _ ws => aclModifiedKeep aclId ws.auth) sockets

def removeWebsocketByKeyId (keyId : String) : Table String (KeySocket isAlphanumeric V) :=
  Table.retain (fun _ ws => keyModifiedKeep keyId ws.auth) sockets

def handleAaa : AaaEvent -> Table String (KeySocket isAlphanumeric V)
  | .acl id => removeWebsocketByAclId sockets id
  | .key id => removeWebsocketByKeyId sockets id
  | .user _ => sockets

/-- Exactly the websockets with a property are closed by an event. -/
def Closes (event : AaaEvent) (P : KeySocket isAlphanumeric V -> Prop) : Prop :=
  forall ws socket, AList.lookup ws (handleAaa sockets event) = some socket <->
    AList.lookup ws sockets = some socket ∧ ¬ P socket

variable (socket : KeySocket isAlphanumeric V)

def KeySocket.sources : List String :=
  foundIds socket.store socket.request

/-!
## Ids
-/

lemma KeySocket.mem_fromIds (id : String) : id ∈ socket.acl.fromIds <-> id ∈ socket.sources := by
  rw [socket.sameFrom]
  exact (AclSvc.formatAcl_ok socket.formatted).right.left id

lemma KeySocket.auth_eq : socket.auth = .key ("." ++ socket.keyId) socket.acl := by
  rcases socket.authenticated with ⟨k, hk, hauth⟩
  rw [socket.sameKey, (AclSvc.formatAcl_ok socket.formatted).right.right] at hk
  injection hk with hk
  rw [hauth, hk]

lemma dot_append_injective (h : "." ++ a = "." ++ b) : a = b := by
  have hlist := congrArg String.toList h
  rw [String.toList_append, String.toList_append] at hlist
  exact String.toList_injective (List.append_cancel_left hlist)

variable {sockets} in
theorem closes_iff_of_retain {keep : Auth -> Bool} {P : KeySocket isAlphanumeric V -> Prop}
    (hevent : handleAaa sockets event = Table.retain (fun _ ws => keep ws.auth) sockets) :
    Closes sockets event P <-> forall ws socket, AList.lookup ws sockets = some socket ->
      (keep socket.auth = false <-> P socket) := by
  have hlookup : forall ws socket, AList.lookup ws (handleAaa sockets event) = some socket <->
      AList.lookup ws sockets = some socket ∧ keep socket.auth = true := by
    intro ws socket
    rw [hevent, Table.lookup_retain, Option.filter_eq_some_iff]
  constructor
  · intro hcloses ws socket hsocket
    have hboth := (hlookup ws socket).symm.trans (hcloses ws socket)
    cases hkeep : keep socket.auth with
    | true => exact ⟨nofun, fun hP => absurd hP (hboth.mp ⟨hsocket, hkeep⟩).right⟩
    | false =>
      refine ⟨fun _ => Classical.byContradiction fun hnot => ?_, fun _ => rfl⟩
      have htrue := (hboth.mpr ⟨hsocket, hnot⟩).right
      rw [hkeep] at htrue
      cases htrue
  · intro hdrops ws socket
    rw [hlookup ws socket]
    constructor
    · intro h
      refine ⟨h.left, ?_⟩
      intro hP
      rw [(hdrops ws socket h.left).mpr hP] at h
      cases h.right
    · intro h
      refine ⟨h.left, ?_⟩
      cases hkeep : keep socket.auth with
      | true => rfl
      | false => exact absurd ((hdrops ws socket h.left).mp hkeep) h.right

lemma closes_key : Closes sockets (.key k) fun socket => socket.keyId = k := by
  apply (closes_iff_of_retain rfl).mpr
  intro ws socket _
  rw [socket.auth_eq]
  change (("." ++ socket.keyId) != "." ++ k) = false <-> _
  rw [bne_eq_false_iff_eq]
  constructor
  · exact dot_append_injective
  · intro h
    rw [h]

/-- The id of an ACL finds the websockets whose ACL is made from it alone, and those with an empty
ACL under the name of the empty one. -/
theorem KeySocket.dropped_iff (hx : '+' ∉ x.toList) : aclModifiedKeep x socket.auth = false <->
      socket.sources = [x] ∨ (socket.sources = [] ∧ x = aclNone) := by
  rw [socket.auth_eq]
  change (socket.acl.id != x) = false <-> _
  rw [bne_eq_false_iff_eq, socket.sameId, (AclSvc.formatAcl_ok socket.formatted).left]
  exact AclSvc.combinedId_eq_iff hx

lemma KeySocket.dropped_as_meant_iff (hx : '+' ∉ x.toList) :
    (aclModifiedKeep x socket.auth = false <-> x ∈ socket.acl.fromIds) <->
      (x ∈ socket.sources -> socket.sources = [x]) ∧ (socket.sources = [] -> x ≠ aclNone) := by
  rw [socket.dropped_iff hx, socket.mem_fromIds]
  constructor
  · intro h
    constructor
    · intro hmem
      rcases h.mpr hmem with hsingle | hempty
      · exact hsingle
      · rw [hempty.left] at hmem
        cases hmem
    · intro hempty hnone
      have hmem := h.mp (Or.inr ⟨hempty, hnone⟩)
      rw [hempty] at hmem
      cases hmem
  · intro h
    constructor
    · intro hdropped
      rcases hdropped with hsingle | hempty
      · rw [hsingle]
        exact List.mem_cons_self
      · exact absurd hempty.right (h.right hempty.left)
    · intro hmem
      exact Or.inl (h.left hmem)

/-- The websockets of an ACL and of a key are closed, and no others, exactly if no open websocket
has the ACL among several, and none has an empty ACL that the ACL shares its name with. -/
theorem revoked_access_closes_websockets_iff (hplus : isAlphanumeric '+' = false)
    (sockets : Table String (KeySocket isAlphanumeric V)) (store : AclStore isAlphanumeric V)
    {x : String} (hx : store.has x = true) (k : String) :
    (Closes sockets (.acl x) (fun socket => x ∈ socket.acl.fromIds) ∧
        Closes sockets (.key k) fun socket => socket.keyId = k) <->
      forall ws socket, AList.lookup ws sockets = some socket ->
        (x ∈ socket.sources -> socket.sources = [x]) ∧ (socket.sources = [] -> x ≠ aclNone) := by
  have hno : '+' ∉ x.toList := (store.validId_of_has hx).no_plus hplus
  have hacl : Closes sockets (.acl x) (fun socket => x ∈ socket.acl.fromIds) <->
      forall ws socket, AList.lookup ws sockets = some socket ->
        (aclModifiedKeep x socket.auth = false <-> x ∈ socket.acl.fromIds) :=
    closes_iff_of_retain rfl
  rw [hacl]
  constructor
  · intro h ws socket hsocket
    exact (socket.dropped_as_meant_iff hno).mp (h.left ws socket hsocket)
  · intro h
    refine ⟨?_, closes_key sockets⟩
    intro ws socket hsocket
    exact (socket.dropped_as_meant_iff hno).mpr (h ws socket hsocket)

end Table

/-!
## An operator who is a viewer too
-/

instance plainAclValue : AclValue String where
  text := id
  asText := some
  asText_text := fun _ => rfl

def demoAcl (id : String) : AclSvc.AclRecord String where
  id := id
  admin := false
  read := none
  write := none
  denyRead := none
  denyWrite := none
  ops := none
  metaInfo := none

def demoStore : AclStore Char.isAlphanum String :=
  (AclStore.empty.insert (demoAcl "operator") (by decide)).insert (demoAcl "viewer") (by decide)

def lenientFormat : FormatConfig where
  strictAclFormatting := false
  forbidEmptyAcls := false

def demoData (id : String) (sources : List String) (keyId : String) : AclData String where
  id := id
  fromIds := sources
  admin := false
  read := none
  write := none
  denyRead := none
  denyWrite := none
  ops := none
  metaInfo := some (AList.insert "api_key_id" [keyId] ∅)

def decodedAcl (data : AclData String) (keyId : String) : Acl :=
  { Acl.ofPvt ⟨[], []⟩ ⟨[], []⟩ with
    id := data.id, fromIds := data.fromIds, apiKeyId := some keyId }

def demoSocket (request : IdOrList) (data : AclData String) (keyId : String)
    (h : formatAcl lenientFormat demoStore request (some keyId) = .ok data) :
    KeySocket Char.isAlphanum String where
  config := lenientFormat
  store := demoStore
  request := request
  keyId := keyId
  data := data
  formatted := h
  acl := decodedAcl data keyId
  sameId := rfl
  sameFrom := rfl
  sameKey := (AclSvc.formatAcl_ok h).right.right.symm
  auth := .key ("." ++ keyId) (decodedAcl data keyId)
  authenticated := ⟨keyId, rfl, rfl⟩

def viewerSocket : KeySocket Char.isAlphanum String :=
  demoSocket (.single "viewer") (demoData "viewer" ["viewer"] "panel") "panel" rfl

def operatorSocket : KeySocket Char.isAlphanum String :=
  demoSocket (.multiple ["viewer", "operator"])
    (demoData "operator+viewer" ["viewer", "operator"] "desk") "desk" rfl

def demoTable (socket : KeySocket Char.isAlphanum String) :
    Table String (KeySocket Char.isAlphanum String) :=
  AList.insert "ws" socket ∅

lemma lookup_demoTable (h : AList.lookup ws (demoTable socket) = some other) : other = socket := by
  unfold demoTable at h
  rw [Table.lookup_insert_if] at h
  split at h
  · injection h with h
    exact h.symm
  · cases h

/-- The websocket of a viewer is closed with its ACL and with its key. -/
theorem viewer_websocket_closed : demoStore.has "viewer" = true ∧
      Closes (demoTable viewerSocket) (.acl "viewer")
        (fun socket => "viewer" ∈ socket.acl.fromIds) ∧
      Closes (demoTable viewerSocket) (.key "panel") fun socket => socket.keyId = "panel" := by
  refine ⟨by decide, ?_⟩
  apply (revoked_access_closes_websockets_iff (by decide) (demoTable viewerSocket) demoStore
    (by decide) "panel").mpr
  intro ws socket hsocket
  rw [lookup_demoTable hsocket]
  exact ⟨fun _ => rfl, nofun⟩

/-- An operator who is a viewer too keeps the websocket when the ACL of operators changes. -/
theorem operator_websocket_stays :
    AList.lookup "ws" (handleAaa (demoTable operatorSocket) (.acl "operator")) =
        some operatorSocket ∧ "operator" ∈ operatorSocket.acl.fromIds ∧
      ¬ Closes (demoTable operatorSocket) (.acl "operator")
        fun socket => "operator" ∈ socket.acl.fromIds := by
  have hstays : AList.lookup "ws" (handleAaa (demoTable operatorSocket) (.acl "operator")) =
      some operatorSocket := rfl
  have hsource : "operator" ∈ operatorSocket.acl.fromIds :=
    List.mem_cons_of_mem "viewer" List.mem_cons_self
  refine ⟨hstays, hsource, ?_⟩
  intro hcloses
  exact ((hcloses "ws" operatorSocket).mp hstays).right hsource

end Eva4.Hmi
