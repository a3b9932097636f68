import Eva4.Hmi.TokenSockets

/-!
# Websockets follow their tokens

What holds of connections, tokens and the table after every admitted step, and what a step breaks
that is not admitted.
-/

namespace Eva4.Hmi

open Lib
open Items

variable {V : Type}

/-!
## What is known in every state
-/

namespace TokenSockets

/-- The token was there and will not be there again. -/
def Gone (s : TokenSockets V) (token : TokenId) : Prop :=
  token ∈ s.known ∧ token ∉ s.tokens

/-- Ids stay known, and a known id does not become a token again. -/
structure Later (s s' : TokenSockets V) : Prop where
  known : forall id, id ∈ s.known -> id ∈ s'.known
  tokens : forall id, id ∈ s.known -> id ∈ s'.tokens -> id ∈ s.tokens

variable {s s' : TokenSockets V} {ws : Nat} {conn : Connection} {token : TokenId}
  {task : SocketTask V}

lemma Gone.later (hlater : Later s s') (h : s.Gone token) : s'.Gone token :=
  ⟨hlater.known token h.left, fun hmem => h.right (hlater.tokens token h.left hmem)⟩

def TaskOk (s : TokenSockets V) : SocketTask V -> Prop
  | .logout dialog => exists own deleted, own ∈ s.known ∧ (deleted = true -> own ∉ s.tokens) ∧
      dialog.Follows (logoutRules own) (fun _ _ => True) deleted
  | _ => True

lemma TaskOk.later (hlater : Later s s') (h : s.TaskOk task) : s'.TaskOk task := by
  cases task with
  | logout dialog =>
    rcases h with ⟨own, deleted, hknown, hdeleted, hfollows⟩
    refine ⟨own, deleted, hlater.known own hknown, ?_, hfollows⟩
    intro htrue hmem
    exact hdeleted htrue (hlater.tokens own hknown hmem)
  | _ => trivial

structure Sound (s : TokenSockets V) : Prop where
  ended : forall (ws : Nat) (conn : Connection), s.connections[ws]? = some conn ->
    conn.terminated = true -> conn.unregistered = true ∨ s.Gone conn.token
  absent : forall (ws : Nat) (conn : Connection), s.connections[ws]? = some conn ->
    conn.unregistered = true -> forall token, ws ∉ s.websockets.sockets token
  own : forall token ws, ws ∈ s.websockets.sockets token ->
    exists conn, s.connections[ws]? = some conn ∧ conn.token = token
  opened : forall (ws : Nat) (conn : Connection), s.connections[ws]? = some conn ->
    conn.token ∈ s.known
  known : forall id, id ∈ s.tokens -> id ∈ s.known
  tasks : forall task, task ∈ s.tasks -> s.TaskOk task

lemma Sound.followTokens (hs : s.Sound) : s.FollowTokens := by
  refine ⟨?_, hs.absent⟩
  intro ws conn hconn hterminated
  rcases hs.ended ws conn hconn hterminated with hunregistered | hgone
  · exact Or.inl hunregistered
  · exact Or.inr hgone.right

lemma Sound.later (hs : s.Sound) (hlater : Later s s')
    (hconnections : s'.connections = s.connections) (hwebsockets : s'.websockets = s.websockets)
    (hknown : forall id, id ∈ s'.tokens -> id ∈ s'.known)
    (htasks : forall task, task ∈ s'.tasks -> s'.TaskOk task) : s'.Sound := by
  constructor
  · intro ws conn hconn hterminated
    rw [hconnections] at hconn
    rcases hs.ended ws conn hconn hterminated with hunregistered | hgone
    · exact Or.inl hunregistered
    · exact Or.inr (hgone.later hlater)
  · rw [hconnections, hwebsockets]
    exact hs.absent
  · rw [hconnections, hwebsockets]
    exact hs.own
  · intro ws conn hconn
    rw [hconnections] at hconn
    exact hlater.known conn.token (hs.opened ws conn hconn)
  · exact hknown
  · exact htasks

/-!
## Closing websockets
-/

lemma getElem?_terminate (sockets : List Nat) (connections : List Connection) (ws : Nat) :
    (terminate sockets connections)[ws]? = connections[ws]?.map fun conn =>
      if ws ∈ sockets then { conn with terminated := true } else conn := by
  unfold terminate
  rw [List.getElem?_mapIdx]

variable {connections : List Connection} {e : SocketEvent V}
  {failure : Option (Error × Bool)} {id : TokenId} {ids tokens : List TokenId}

lemma terminate_cases (h : (terminate sockets connections)[ws]? = some conn) :
    exists before, connections[ws]? = some before ∧ conn.token = before.token ∧
      conn.unregistered = before.unregistered ∧
      (conn.terminated = true -> before.terminated = true ∨ ws ∈ sockets) := by
  rw [getElem?_terminate] at h
  rcases Option.map_eq_some_iff.mp h with ⟨before, hbefore, hconn⟩
  refine ⟨before, hbefore, ?_⟩
  split at hconn
  · next hmem =>
    rw [← hconn]
    exact ⟨rfl, rfl, fun _ => Or.inr hmem⟩
  · rw [← hconn]
    exact ⟨rfl, rfl, Or.inl⟩

lemma mem_sockets_of_closeSockets (h : ws ∈ (s.closeSockets token).websockets.sockets other) :
    other ≠ token ∧ ws ∈ s.websockets.sockets other := by
  change ws ∈ WebsocketTable.sockets (AList.erase token s.websockets) other at h
  rw [WebsocketTable.sockets_erase] at h
  split at h
  · cases h
  · next hne => exact ⟨hne, h⟩

section

variable (hs : s.Sound)
include hs

lemma Sound.closeSockets (hgone : forall ws, ws ∈ s.websockets.sockets token -> s.Gone token) :
    (s.closeSockets token).Sound := by
  constructor
  · intro ws conn hconn hterminated
    rcases terminate_cases hconn with ⟨before, hbefore, htoken, hunregistered, hended⟩
    rw [htoken, hunregistered]
    rcases hended hterminated with hold | hclosed
    · exact hs.ended ws before hbefore hold
    · rcases hs.own token ws hclosed with ⟨owner, howner, hown⟩
      rw [hbefore] at howner
      injection howner with howner
      rw [howner, hown]
      exact Or.inr (hgone ws hclosed)
  · intro ws conn hconn hunregistered other hmem
    rcases terminate_cases hconn with ⟨before, hbefore, _, hsame, _⟩
    rw [hsame] at hunregistered
    exact hs.absent ws before hbefore hunregistered other (mem_sockets_of_closeSockets hmem).right
  · intro other ws hmem
    rcases hs.own other ws (mem_sockets_of_closeSockets hmem).right with ⟨conn, hconn, htoken⟩
    have hsame := getElem?_terminate (s.websockets.sockets token) s.connections ws
    rw [hconn] at hsame
    refine ⟨_, hsame, ?_⟩
    split
    · exact htoken
    · exact htoken
  · intro ws conn hconn
    rcases terminate_cases hconn with ⟨before, hbefore, htoken, _⟩
    rw [htoken]
    exact hs.opened ws before hbefore
  · exact hs.known
  · intro task htask
    exact TaskOk.later ⟨fun _ h => h, fun _ _ h => h⟩ (hs.tasks task htask)

lemma Sound.closeAll
    (hgone : forall token, token ∈ tokens -> forall ws, ws ∈ s.websockets.sockets token ->
      s.Gone token) : (tokens.foldl TokenSockets.closeSockets s).Sound := by
  induction tokens generalizing s with
  | nil => exact hs
  | cons token rest ih =>
    apply ih (hs.closeSockets (hgone token List.mem_cons_self))
    intro other hother ws hmem
    exact hgone other (List.mem_cons_of_mem token hother) ws
      (mem_sockets_of_closeSockets hmem).right

/-- The cleaner may go to the table if every token with websockets is gone or was read. -/
theorem Sound.clearTokenWebsockets
    (hread : forall token ws, ws ∈ s.websockets.sockets token -> token ∈ s.tokens ->
      token ∈ ids) : (s.clearTokenWebsockets ids).Sound := by
  apply hs.closeAll
  intro token htoken ws hws
  rcases hs.own token ws hws with ⟨conn, hconn, hown⟩
  have hknown := hs.opened ws conn hconn
  rw [hown] at hknown
  refine ⟨hknown, ?_⟩
  intro hmem
  exact of_decide_eq_true (List.mem_filter.mp htoken).right (hread token ws hws hmem)

/-!
## One step
-/

lemma Sound.setTask (htask : s.TaskOk task) : (s.setTask k task).Sound := by
  have hlater : Later s (s.setTask k task) := ⟨fun _ h => h, fun _ _ h => h⟩
  apply hs.later hlater rfl rfl hs.known
  exact forall_mem_set (fun a ha => (hs.tasks a ha).later hlater) (htask.later hlater)

lemma Sound.addTask (htask : s.TaskOk task) : Sound { s with tasks := s.tasks ++ [task] } := by
  have hlater : Later s { s with tasks := s.tasks ++ [task] } := ⟨fun _ h => h, fun _ _ h => h⟩
  apply hs.later hlater rfl rfl hs.known
  exact forall_mem_concat (fun a ha => (hs.tasks a ha).later hlater) (htask.later hlater)

lemma Sound.know : Sound { s with known := id :: s.known } := by
  have hlater : Later s { s with known := id :: s.known } :=
    ⟨fun _ h => List.mem_cons_of_mem id h, fun _ _ h => h⟩
  apply hs.later hlater rfl rfl
  · intro other hmem
    exact List.mem_cons_of_mem id (hs.known other hmem)
  · intro task htask
    exact (hs.tasks task htask).later hlater

lemma Sound.addToken (hnew : id ∉ s.known) :
    Sound { s with known := id :: s.known, tokens := id :: s.tokens } := by
  have hlater : Later s { s with known := id :: s.known, tokens := id :: s.tokens } := by
    constructor
    · intro other hother
      exact List.mem_cons_of_mem id hother
    · intro other hother hmem
      rcases List.mem_cons.mp hmem with heq | hold
      · rw [heq] at hother
        exact absurd hother hnew
      · exact hold
  apply hs.later hlater rfl rfl
  · intro other hmem
    rcases List.mem_cons.mp hmem with heq | hold
    · rw [heq]
      exact List.mem_cons_self
    · exact List.mem_cons_of_mem id (hs.known other hold)
  · intro task htask
    exact (hs.tasks task htask).later hlater

omit hs in
lemma Later.dropTokens (s : TokenSockets V) (keep : TokenId -> Bool) :
    Later s { s with tokens := s.tokens.filter keep } :=
  ⟨fun _ h => h, fun _ _ h => (List.mem_filter.mp h).left⟩

lemma Sound.dropTokens : Sound { s with tokens := s.tokens.filter keep } := by
  apply hs.later (.dropTokens s keep) rfl rfl
  · intro id hmem
    exact hs.known id (List.mem_filter.mp hmem).left
  · intro task htask
    exact (hs.tasks task htask).later (.dropTokens s keep)

lemma Sound.addConnection (htoken : token ∈ s.tokens) :
    Sound { s with connections := s.connections ++ [⟨token, false, false, false⟩] } := by
  constructor
  · intro ws conn hconn hterminated
    rcases getElem?_concat_cases hconn with hnew | hold
    · rw [hnew] at hterminated
      cases hterminated
    · exact hs.ended ws conn hold hterminated
  · intro ws conn hconn hunregistered
    rcases getElem?_concat_cases hconn with hnew | hold
    · rw [hnew] at hunregistered
      cases hunregistered
    · exact hs.absent ws conn hold hunregistered
  · intro other ws hmem
    rcases hs.own other ws hmem with ⟨conn, hconn, hown⟩
    have hlt := (List.getElem?_eq_some_iff.mp hconn).1
    refine ⟨conn, ?_, hown⟩
    rw [← hconn]
    exact List.getElem?_append_left hlt
  · intro ws conn hconn
    rcases getElem?_concat_cases hconn with hnew | hold
    · rw [hnew]
      exact hs.known token htoken
    · exact hs.opened ws conn hold
  · exact hs.known
  · intro task htask
    exact (hs.tasks task htask).later ⟨fun _ h => h, fun _ _ h => h⟩

end

section

variable (hs : s.Sound) (hconn : s.connections[ws]? = some conn)
include hs hconn

lemma Sound.own_set (htoken : conn'.token = conn.token) (hmem : n ∈ s.websockets.sockets token) :
    exists owner, (s.connections.set ws conn')[n]? = some owner ∧ owner.token = token := by
  rcases hs.own token n hmem with ⟨owner, howner, hown⟩
  rw [getElem?_set_if hconn]
  split
  · next heq =>
    rw [heq, hconn] at howner
    cases howner
    refine ⟨conn', rfl, ?_⟩
    rw [htoken]
    exact hown
  · exact ⟨owner, howner, hown⟩

theorem Sound.setConnection (htoken : conn'.token = conn.token)
    (hended : conn'.terminated = true -> conn'.unregistered = true ∨ s.Gone conn.token)
    (habsent : conn'.unregistered = true -> forall token, ws ∉ table.sockets token)
    (htable : forall token n, n ∈ table.sockets token ->
      (token = conn.token ∧ n = ws) ∨ n ∈ s.websockets.sockets token) :
    Sound { s with websockets := table, connections := s.connections.set ws conn' } := by
  constructor
  · intro n other hother hterminated
    rcases getElem?_set_cases hconn hother with hself | hold
    · rw [hself.right] at hterminated
      rw [hself.right, htoken]
      exact hended hterminated
    · exact hs.ended n other hold.right hterminated
  · intro n other hother hunregistered token hmem
    rcases getElem?_set_cases hconn hother with hself | hold
    · rw [hself.right] at hunregistered
      rw [hself.left] at hmem
      exact habsent hunregistered token hmem
    · rcases htable token n hmem with hnew | hbefore
      · exact hold.left hnew.right
      · exact hs.absent n other hold.right hunregistered token hbefore
  · intro token n hmem
    rcases htable token n hmem with hnew | hbefore
    · refine ⟨conn', ?_, htoken.trans hnew.left.symm⟩
      rw [getElem?_set_if hconn, if_pos hnew.right]
    · exact hs.own_set hconn htoken hbefore
  · intro n other hother
    rcases getElem?_set_cases hconn hother with hself | hold
    · rw [hself.right, htoken]
      exact hs.opened ws conn hconn
    · exact hs.opened n other hold.right
  · exact hs.known
  · intro task htask
    exact (hs.tasks task htask).later ⟨fun _ h => h, fun _ _ h => h⟩

lemma Sound.registerWebsocket (hregistered : conn.unregistered = false)
    (h : s.registerWebsocket ws conn = some s') : s'.Sound := by
  unfold TokenSockets.registerWebsocket at h
  split at h
  · cases h
  · cases h
    apply hs.setConnection hconn
    · rfl
    · exact hs.ended ws conn hconn
    · intro hunregistered
      rw [hregistered] at hunregistered
      cases hunregistered
    · intro token n
      exact WebsocketTable.mem_registerWebsocket.mp

lemma Sound.unregisterWebsocket (habsent : ws ∉ s.websockets.sockets conn.token) :
    (s.unregisterWebsocket ws conn).Sound := by
  apply hs.setConnection hconn
  · rfl
  · intro _
    exact Or.inl rfl
  · intro _ token hmem
    rcases hs.own token ws hmem with ⟨owner, howner, hown⟩
    rw [hconn] at howner
    injection howner with howner
    rw [howner, hown] at habsent
    exact habsent hmem
  · intro token n
    exact Or.inr

end

lemma Sound.deleteToken (hs : s.Sound) : (s.deleteToken id failure).2.Sound := by
  unfold TokenSockets.deleteToken
  split
  · exact hs.dropTokens
  · exact hs.dropTokens
  · exact hs

lemma deleteToken_gone (h : (s.deleteToken id failure).1.isOk = true) :
    id ∉ (s.deleteToken id failure).2.tokens := by
  unfold TokenSockets.deleteToken at h ⊢
  split at h
  · intro hmem
    exact of_decide_eq_true (List.mem_filter.mp hmem).right rfl
  · cases h
  · cases h

lemma Sound.respond (hs : s.Sound) (answers : (c : HmiCall V) -> c.Answer)
    (failure : Option (Error × Bool)) (htask : s.TaskOk (.logout (.ask c next))) :
    (s.respond answers failure c).2.Sound ∧
      (s.respond answers failure c).2.TaskOk (.logout (next (s.respond answers failure c).1)) := by
  rcases htask with ⟨own, deleted, hknown, hdeleted, hallowed, hnext⟩
  cases c with
  | deleteToken id =>
    have hid : id = own := hallowed
    refine ⟨hs.deleteToken, own, _, ?_, ?_, hnext _ trivial⟩
    · change own ∈ (s.deleteToken id failure).2.known
      unfold TokenSockets.deleteToken
      split
      · exact hknown
      · exact hknown
      · exact hknown
    · intro hok
      rw [← hid]
      exact deleteToken_gone hok
  | closeWebsockets id =>
    have hgone : s.Gone id := by
      rw [hallowed.left]
      exact ⟨hknown, hdeleted hallowed.right⟩
    exact ⟨hs.closeSockets fun _ _ => hgone, own, deleted, hknown, hdeleted, hnext _ trivial⟩
  | _ => exact ⟨hs, own, deleted, hknown, hdeleted, hnext _ trivial⟩

/-- A connection is unregistered when it is not in the table, none is registered after that, and
the cleaner has read every token that is there and has websockets. -/
def Admits (s : TokenSockets V) : SocketEvent V -> Prop
  | .register ws => forall conn, s.connections[ws]? = some conn -> conn.unregistered = false
  | .unregister ws => forall conn, s.connections[ws]? = some conn ->
      ws ∉ s.websockets.sockets conn.token
  | .step k _ _ => forall ids, s.tasks[k]? = some (.walk ids) ->
      forall token ws, ws ∈ s.websockets.sockets token -> token ∈ s.tokens -> token ∈ ids
  | _ => True

lemma Sound.advance (hs : s.Sound)
    (htask : s.tasks[k]? = some task) (hadmits : s.Admits (.step k answers failure))
    (h : s.advance k answers failure task = some s') : s'.Sound := by
  unfold TokenSockets.advance at h
  split at h
  · next c next =>
    cases h
    have hrest := hs.respond answers failure (hs.tasks _ (List.mem_of_getElem? htask))
    exact hrest.left.setTask hrest.right
  · split at h
    · cases h
      exact hs.setTask trivial
    · cases h
      exact hs.setTask trivial
  · next ids =>
    cases h
    exact (hs.clearTokenWebsockets (hadmits ids htask)).setTask trivial
  · cases h

lemma Sound.step (hs : s.Sound) (hadmits : s.Admits e) (h : TokenSockets.step s e = some s') :
    s'.Sound := by
  cases e with
  | create id =>
    change s.create id = some s' at h
    unfold TokenSockets.create at h
    split at h
    · cases h
    · next hnew =>
      cases h
      exact hs.addToken hnew
  | dropTokens keep =>
    cases h
    exact hs.dropTokens
  | connect token =>
    change s.connect token = some s' at h
    unfold TokenSockets.connect at h
    split at h
    · next htoken =>
      cases h
      exact hs.addConnection htoken
    · cases h
  | register ws =>
    rcases Option.bind_eq_some_iff.mp h with ⟨conn, hconn, hregister⟩
    exact hs.registerWebsocket hconn (hadmits conn hconn) hregister
  | unregister ws =>
    rcases Option.map_eq_some_iff.mp h with ⟨conn, hconn, hs'⟩
    rw [← hs']
    exact hs.unregisterWebsocket hconn (hadmits conn hconn)
  | logout id =>
    cases h
    apply hs.know.addTask
    exact ⟨id, false, List.mem_cons_self, nofun, destroyToken_follows⟩
  | clear =>
    cases h
    exact hs.addTask trivial
  | step k answers failure =>
    rcases Option.bind_eq_some_iff.mp h with ⟨task, htask, hadvance⟩
    exact hs.advance htask hadmits hadvance

/-!
## Steps that are not admitted
-/

lemma terminated_of_terminate (h : connections[ws]? = some conn)
    (hended : ws ∈ sockets ∨ conn.terminated = true) :
    exists after, (terminate sockets connections)[ws]? = some after ∧ after.token = conn.token ∧
      after.unregistered = conn.unregistered ∧ after.terminated = true := by
  have hafter := getElem?_terminate sockets connections ws
  rw [h] at hafter
  refine ⟨_, hafter, ?_⟩
  split
  · exact ⟨rfl, rfl, rfl⟩
  · next hnot =>
    rcases hended with hmem | hold
    · exact absurd hmem hnot
    · exact ⟨rfl, rfl, hold⟩

lemma terminated_of_closeAll (h : s.connections[ws]? = some conn)
    (hended : conn.terminated = true ∨
      (conn.token ∈ tokens ∧ ws ∈ s.websockets.sockets conn.token)) :
    exists after, (tokens.foldl closeSockets s).connections[ws]? = some after ∧
      after.token = conn.token ∧ after.unregistered = conn.unregistered ∧
      after.terminated = true := by
  induction tokens generalizing s conn with
  | nil =>
    rcases hended with hterminated | hclosed
    · exact ⟨conn, h, rfl, rfl, hterminated⟩
    · cases hclosed.left
  | cons token rest ih =>
    by_cases hnow : ws ∈ s.websockets.sockets token ∨ conn.terminated = true
    · rcases terminated_of_terminate h hnow with ⟨mid, hmid, htoken, hunregistered, hended⟩
      rw [← htoken, ← hunregistered]
      exact ih (s := s.closeSockets token) hmid (Or.inl hended)
    · rcases not_or.mp hnow with ⟨hother, hopen⟩
      rcases Or.resolve_left hended hopen with ⟨hmem, hws⟩
      have hne : conn.token ≠ token := by
        intro heq
        rw [heq] at hws
        exact hother hws
      have hmid : (s.closeSockets token).connections[ws]? = some conn := by
        change (terminate _ _)[ws]? = some conn
        rw [getElem?_terminate, h, Option.map_some, if_neg hother]
      have hstill : ws ∈ (s.closeSockets token).websockets.sockets conn.token := by
        change ws ∈ WebsocketTable.sockets (AList.erase token s.websockets) conn.token
        rw [WebsocketTable.sockets_erase, if_neg hne]
        exact hws
      exact ih hmid (Or.inr ⟨List.mem_of_ne_of_mem hne hmem, hstill⟩)

lemma tokens_closeAll (tokens : List TokenId) (s : TokenSockets V) :
    (tokens.foldl closeSockets s).tokens = s.tokens := by
  induction tokens generalizing s with
  | nil => rfl
  | cons token rest ih => exact ih (s.closeSockets token)

/-- The cleaner terminates the websockets of every token that it has not read. -/
theorem Sound.read_of_followTokens (hs : s.Sound) (h : (s.clearTokenWebsockets ids).FollowTokens)
    (hws : ws ∈ s.websockets.sockets token) (htoken : token ∈ s.tokens) : token ∈ ids := by
  rcases hs.own token ws hws with ⟨conn, hconn, hown⟩
  apply Classical.byContradiction
  intro hnot
  have hclosed : conn.token ∈ s.websockets.keys.filter fun token => token ∉ ids := by
    rw [hown]
    exact List.mem_filter.mpr ⟨WebsocketTable.mem_keys_of_sockets hws, decide_eq_true hnot⟩
  have hwsOwn : ws ∈ s.websockets.sockets conn.token := by
    rw [hown]
    exact hws
  rcases terminated_of_closeAll hconn (Or.inr ⟨hclosed, hwsOwn⟩) with
    ⟨after, hafter, hafterToken, hunregistered, hterminated⟩
  rcases h.left ws after hafter hterminated with hgone | hgone
  · rw [hunregistered] at hgone
    exact hs.absent ws conn hconn hgone token hws
  · apply hgone
    rw [hafterToken, hown]
    change token ∈ TokenSockets.tokens (List.foldl _ s _)
    rw [tokens_closeAll]
    exact htoken

/-- A step that is not admitted breaks what holds until then. -/
theorem Sound.admits_of_followTokens (hs : s.Sound) (hstep : TokenSockets.step s e = some s')
    (h : s'.FollowTokens) : s.Admits e := by
  cases e with
  | register ws =>
    intro conn hconn
    rcases Option.bind_eq_some_iff.mp hstep with ⟨conn', hconn', hregister⟩
    rw [hconn] at hconn'
    cases hconn'
    unfold TokenSockets.registerWebsocket at hregister
    split at hregister
    · cases hregister
    · cases hregister
      apply Bool.eq_false_iff.mpr
      intro hunregistered
      have hentry : (s.connections.set ws { conn with registered := true })[ws]? =
          some { conn with registered := true } := by
        rw [getElem?_set_if hconn, if_pos rfl]
      exact h.right ws _ hentry hunregistered conn.token
        (WebsocketTable.mem_registerWebsocket.mpr (Or.inl ⟨rfl, rfl⟩))
  | unregister ws =>
    intro conn hconn
    rcases Option.map_eq_some_iff.mp hstep with ⟨conn', hconn', hs'⟩
    rw [hconn] at hconn'
    injection hconn' with hsame
    rw [← hs', ← hsame] at h
    have hentry := getElem?_set_if hconn
      { conn with
        unregistered := true
        terminated := conn.terminated || decide (ws ∈ s.websockets.sockets conn.token) } ws
    rw [if_pos rfl] at hentry
    exact h.right ws _ hentry rfl conn.token
  | step k answers failure =>
    intro ids htask token ws hws htoken
    rcases Option.bind_eq_some_iff.mp hstep with ⟨task, htask', hadvance⟩
    rw [htask] at htask'
    cases htask'
    cases hadvance
    exact hs.read_of_followTokens h hws htoken
  | _ => trivial

lemma sound_new : Sound (new : TokenSockets V) := by
  constructor
  · intro ws conn hconn
    cases hconn
  · intro ws conn hconn
    cases hconn
  · intro token ws hmem
    cases hmem
  · intro ws conn hconn
    cases hconn
  · intro id hmem
    cases hmem
  · intro task hmem
    cases hmem

/-- Websockets follow their tokens as long as all steps are admitted, and no longer. -/
theorem websockets_follow_tokens {s : TokenSockets V}
    (hrun : Machine.Reaches TokenSockets.step Admits new s) :
    s.FollowTokens ∧ forall e s', TokenSockets.step s e = some s' ->
      (s'.FollowTokens <-> s.Admits e) := by
  have hs : s.Sound := hrun.invariant (I := Sound) sound_new
    fun hs hadmits hstep => hs.step hadmits hstep
  refine ⟨hs.followTokens, ?_⟩
  intro e s' hstep
  constructor
  · intro h
    exact hs.admits_of_followTokens hstep h
  · intro hadmits
    exact (hs.step hadmits hstep).followTokens

/-!
## Runs with one token
-/

def demoToken : TokenId where
  u := "demo"
  salt := ""

def openSocket : List (SocketEvent Unit) :=
  [.create demoToken, .connect demoToken, .register 0]

def plainStep (k : Nat) : SocketEvent Unit :=
  .step k (fun _ => .error (accessError "")) none

def checkPlain (s : TokenSockets Unit) : SocketEvent Unit -> Bool
  | .register ws => s.connections[ws]?.all fun conn => !conn.unregistered
  | .unregister _ => false
  | .step k _ _ => s.tasks[k]?.all fun task =>
    match task with
    | .walk _ => false
    | _ => true
  | _ => true

lemma admits_of_checkPlain (s : TokenSockets Unit) (e : SocketEvent Unit)
    (h : checkPlain s e = true) : s.Admits e := by
  cases e with
  | register ws =>
    intro conn hconn
    change s.connections[ws]?.all _ = true at h
    rw [hconn] at h
    exact (Bool.not_eq_true' _).mp h
  | unregister ws => cases h
  | step k answers failure =>
    intro ids htask
    change s.tasks[k]?.all _ = true at h
    rw [htask] at h
    cases h
  | _ => trivial

/-- The websocket is terminated by a logout, after the token has been deleted. -/
theorem logout_closes_websocket :
    exists s : TokenSockets Unit, Machine.Reaches TokenSockets.step Admits new s ∧
      (s.connections.map Connection.terminated = [true] ∧ s.tokens = []) ∧ s.FollowTokens := by
  have hrun : ((Machine.runChecked TokenSockets.step checkPlain
      (openSocket ++ [.logout demoToken, plainStep 0, plainStep 0, plainStep 0]) new).any fun s =>
        decide (s.connections.map Connection.terminated = [true] ∧ s.tokens = [])) = true := by
    decide
  rcases (Option.any_eq_true ..).mp hrun with ⟨s, hs, hlast⟩
  have hreach := Machine.Reaches.of_runChecked admits_of_checkPlain .start hs
  exact ⟨s, hreach, of_decide_eq_true hlast, (websockets_follow_tokens hreach).left⟩

/-- The cleaner reads the ids before the token is created, and goes to the table after that. -/
def lateWalk : List (SocketEvent Unit) :=
  [.clear, plainStep 0] ++ openSocket ++ [plainStep 0]

lemma not_followTokens_of_entry (h : (s.connections[0]?.any fun conn =>
      conn.unregistered && decide (0 ∈ s.websockets.sockets conn.token)) = true) :
    ¬ s.FollowTokens := by
  intro hfollow
  rcases (Option.any_eq_true ..).mp h with ⟨conn, hconn, hboth⟩
  rcases Bool.and_eq_true_iff.mp hboth with ⟨hunregistered, hmem⟩
  exact hfollow.right 0 conn hconn hunregistered conn.token (of_decide_eq_true hmem)

lemma not_followTokens_of_terminated (h : (s.connections[0]?.any fun conn =>
      conn.terminated && decide (conn.unregistered = false ∧ conn.token ∈ s.tokens)) = true) :
    ¬ s.FollowTokens := by
  intro hfollow
  rcases (Option.any_eq_true ..).mp h with ⟨conn, hconn, hboth⟩
  rcases Bool.and_eq_true_iff.mp hboth with ⟨hterminated, hrest⟩
  rcases of_decide_eq_true hrest with ⟨hopen, htoken⟩
  rcases hfollow.left 0 conn hconn hterminated with hunregistered | hgone
  · rw [hopen] at hunregistered
    cases hunregistered
  · exact hgone htoken

/-- A connection that was unregistered stays in the table, and the cleaner terminates the
websocket of a token that is there. -/
theorem websockets_do_not_follow : (exists s, Machine.runChecked TokenSockets.step (fun _ _ => true)
        (openSocket ++ [.unregister 0]) new = some s ∧ ¬ s.FollowTokens) ∧
      exists s, Machine.runChecked TokenSockets.step (fun _ _ => true) lateWalk new = some s ∧
        ¬ s.FollowTokens := by
  constructor
  · exact exists_of_any (by decide) fun s _ => not_followTokens_of_entry
  · exact exists_of_any (by decide) fun s _ => not_followTokens_of_terminated

end TokenSockets

end Eva4.Hmi
