import Mathlib
import RagService.Lib.Interleaving
import RagService.Lib.Json
import RagService.Api.Auth

/-!
# The WebSocket endpoint and its connection registry

`api/websocket.py` keeps the open sockets in one `ConnectionManager`, `manager`, that every run
of `websocket_endpoint` shares. A run is a coroutine of the event loop: it runs without
interruption from one `await` to the next, so the runs in flight interleave at their awaits.
A run is a process of `Interleaving` whose atomic step completes the `await` it stands at and
runs on to the next one: the handshake `accept`, a `send_text` or a `receive_text`.
`get_current_user_ws` awaits nothing that suspends (its validators are coroutines without an
`await`, and it catches every exception), so it runs inside the step of the handshake.

What the client and the network do is the run's script (`Client`): whether the handshake
completes, and how each send and each receive ends. A receive returns a text frame or raises
(`WebSocketDisconnect` for a closing frame); a send goes through or raises. An exception that
is not an `Exception` (`asyncio.CancelledError` when the server cancels the run) passes every
`except Exception` clause.

`registryInv_run`: in every interleaving, a socket in `active_connections` is the socket of a
run that got past its handshake and did not end through an outer `except` clause: a run in
progress, a run that took the `return` after the authentication error, or a run that an
exception other than an `Exception` ended.
-/

set_option autoImplicit false

namespace RagService.Api

open PyText Interleaving JsonText

/-- A principal's attribute as `json.dumps` writes it. -/
def PyVal.toJson : PyVal → JValue
  | .none => .null
  | .bool b => .bool b
  | .int n => .num (NumLit.ofInt n)
  | .str s => .str s

namespace Websocket

/-! ## Exceptions and the texts the endpoint sends -/

/-- The built-in exceptions that derive from `BaseException` and not from `Exception`. -/
def baseExceptionNames : List Str :=
  ["CancelledError".toList, "KeyboardInterrupt".toList, "SystemExit".toList,
    "GeneratorExit".toList]

/-- `isinstance(e, Exception)`: what an `except Exception` clause catches. -/
def isException (e : Exc) : Bool := !baseExceptionNames.contains e.name

/-- `isinstance(e, json.JSONDecodeError)`. -/
def isJsonDecodeError (e : Exc) : Bool := e.name == "JSONDecodeError".toList

/-- `json.dumps({"error": message})`. -/
def errorText (message : Str) : Str := dumps (.obj [("error".toList, .str message)])

/-- The welcome message `{"type": "connected", "user_id": user_id, "tenant_id": tenant_id}`;
the user dict always holds both keys, so `user.get(key, "unknown")` is the key's value. -/
def welcomeMessage (user : UserDict) : JValue :=
  .obj [("type".toList, .str "connected".toList), ("user_id".toList, user.user_id.toJson),
    ("tenant_id".toList, user.tenant_id.toJson)]

/-- `d.get(key)` on the dict `json.loads` builds from an object: a repeated key keeps its last
value. -/
def dictGet (fields : List (Str × JValue)) (key : Str) : Option JValue :=
  fields.foldl (fun found kv => if kv.1 = key then some kv.2 else found) none

/-- `type(v).__name__` of a value `json.loads` returns. -/
def jsonTypeName : JValue → Str
  | .null => "NoneType".toList
  | .bool _ => "bool".toList
  | .num lit =>
    if lit.text.any fun c => c = '.' || c = 'e' || c = 'E' then "float".toList else "int".toList
  | .str _ => "str".toList
  | .arr _ => "list".toList
  | .obj _ => "dict".toList

/-- The body of the loop's `try` once `receive_text()` has returned `data`: the text to send
back, or what is raised on the way, by `json.loads` or by `message.get` on a value that is not
a dict. -/
def replyTo (loads : Str → Except Exc JValue) (user : UserDict) (data : Str) : Except Exc Str :=
  match loads data with
  | .error e => .error e
  | .ok (.obj fields) =>
    let echo := dumps (.obj [("type".toList, .str "echo".toList), ("data".toList, .obj fields)])
    match dictGet fields "type".toList with
    | some (.str t) =>
      if t = "subscribe".toList then
        let topic := (dictGet fields "topic".toList).getD
          (.str ("tenant.".toList ++ user.tenant_id.toStr))
        .ok (dumps (.obj [("type".toList, .str "subscribed".toList), ("topic".toList, topic)]))
      else if t = "ping".toList then .ok (dumps (.obj [("type".toList, .str "pong".toList)]))
      else .ok echo
    | _ => .ok echo
  | .ok message =>
    .error ⟨"AttributeError".toList,
      "'".toList ++ jsonTypeName message ++ "' object has no attribute 'get'".toList⟩

/-! ## The registry and the runs -/

/-- What the runs share: `manager.active_connections`, sockets by their identity, and the texts
sent on each socket, in order. -/
structure Server where
  active_connections : List Nat
  delivered : List (Nat × Str)

/-- A text sent on a socket. -/
def Server.deliver (s : Server) (websocket : Nat) (text : Str) : Server :=
  { s with delivered := s.delivered ++ [(websocket, text)] }

namespace ConnectionManager

/-- `connect` once `await websocket.accept()` has returned: append the socket. -/
def connect (s : Server) (websocket : Nat) : Server :=
  { s with active_connections := s.active_connections ++ [websocket] }

/-- `disconnect`: `list.remove` of the socket when it is there. -/
def disconnect (s : Server) (websocket : Nat) : Server :=
  if websocket ∈ s.active_connections then
    { s with active_connections := s.active_connections.erase websocket }
  else s

@[simp] theorem active_connections_disconnect (s : Server) (websocket : Nat) :
    (disconnect s websocket).active_connections = s.active_connections.erase websocket := by
  unfold disconnect
  split
  · rfl
  · rename_i h
    exact (List.erase_of_not_mem h).symm

end ConnectionManager

@[simp] theorem Server.active_connections_deliver (s : Server) (websocket : Nat) (text : Str) :
    (s.deliver websocket text).active_connections = s.active_connections := rfl

/-- How a run of `websocket_endpoint` ended. -/
inductive Exit where
  /-- `manager.connect` raised: the handshake failed before the socket was appended -/
  | notConnected (e : Exc)
  /-- the `return` after the authentication error -/
  | refused
  /-- an outer `except` clause ran `manager.disconnect` -/
  | handled
  /-- an exception that is not an `Exception` left the handler -/
  | escaped (e : Exc)
  deriving DecidableEq, Repr

/-- The `await` a run stands at, or how it ended. -/
inductive Phase where
  /-- at `await websocket.accept()` in `manager.connect` -/
  | connecting
  /-- at the `send_text` of the authentication error -/
  | refusing
  /-- at the `send_text` of the welcome message, in `send_personal_message` -/
  | welcoming (user : UserDict)
  /-- at `await websocket.receive_text()` -/
  | waiting (user : UserDict)
  /-- at the `send_text` of a reply, in the loop's `try` -/
  | replying (user : UserDict) (text : Str)
  /-- at the `send_text` of an `except` clause of the loop -/
  | reporting (user : UserDict) (text : Str)
  | returned (exit : Exit)
  deriving DecidableEq, Repr

/-- The run is past its handshake and no outer `except` clause has disconnected it: its socket
may be registered. (A run in progress may have lost it to `send_personal_message`.) -/
def Phase.connected : Phase → Bool
  | .connecting => false
  | .returned (.notConnected _) => false
  | .returned .handled => false
  | _ => true

/-- A run that has not returned. -/
def Phase.running : Phase → Bool
  | .returned _ => false
  | _ => true

/-- A connected run is past its handshake, and still running, or returned by the `return` after
the authentication error, or ended by an exception that is not an `Exception`. -/
theorem connected_iff (p : Phase) :
    p.connected = true ↔ p ≠ .connecting ∧
      (p.running = true ∨ p = .returned .refused ∨ ∃ e, p = .returned (.escaped e)) := by
  cases p with
  | returned exit => cases exit <;> simp [Phase.connected, Phase.running]
  | _ => simp [Phase.connected, Phase.running]

/-- The client and the network as one run sees them: whether the handshake completes, and how
the `n`-th `send_text` and the `n`-th `receive_text` end. -/
structure Client where
  accept : Option Exc
  send : Nat → Option Exc
  receive : Nat → Except Exc Str

/-- A run of `websocket_endpoint`: its socket, the request it was opened with, its client, the
sends and receives it has made, and where it is. -/
structure Handler where
  websocket : Nat
  request : Request
  client : Client
  sends : Nat
  receives : Nat
  phase : Phase

/-- The run after a send, at `phase`. -/
def Handler.afterSend (h : Handler) (phase : Phase) : Handler :=
  { h with sends := h.sends + 1, phase := phase }

@[simp] theorem Handler.websocket_afterSend (h : Handler) (phase : Phase) :
    (h.afterSend phase).websocket = h.websocket := rfl

@[simp] theorem Handler.phase_afterSend (h : Handler) (phase : Phase) :
    (h.afterSend phase).phase = phase := rfl

/-- The outer `except` clauses: `WebSocketDisconnect` and every other `Exception` disconnect the
socket and end the run; any other exception leaves the handler with the registry untouched. -/
def outerExcept (s : Server) (websocket : Nat) (e : Exc) : Server × Exit :=
  if isException e then (ConnectionManager.disconnect s websocket, .handled) else (s, .escaped e)

/-- The `except` clauses of the loop's `try`: a `JSONDecodeError` or another `Exception` is
reported to the client; any other exception passes both clauses and leaves the handler. -/
def innerExcept (user : UserDict) (e : Exc) : Phase :=
  if isJsonDecodeError e then .reporting user (errorText "Invalid JSON".toList)
  else if isException e then .reporting user (errorText "Internal error".toList)
  else .returned (.escaped e)

theorem connected_innerExcept (user : UserDict) (e : Exc) :
    (innerExcept user e).connected = true := by
  unfold innerExcept
  split
  · rfl
  · split <;> rfl

/-- The outer `except` clauses remove the socket, or keep the registry and end the run still
holding it. -/
theorem outerExcept_cases (s : Server) (websocket : Nat) (e : Exc) :
    (outerExcept s websocket e).1.active_connections = s.active_connections.erase websocket ∨
      ((outerExcept s websocket e).1 = s ∧
        (Phase.returned (outerExcept s websocket e).2).connected) := by
  unfold outerExcept
  split
  · exact Or.inl (ConnectionManager.active_connections_disconnect s websocket)
  · exact Or.inr ⟨rfl, rfl⟩

/-- One atomic step of a run of `websocket_endpoint`, from the `await` it stands at to the
next; `none` once it has returned. -/
def websocketEndpoint (E : AuthEnv) (db : AuthDb) (loads : Str → Except Exc JValue)
    (s : Server) (h : Handler) : Option (Server × Handler) :=
  match h.phase with
  | .connecting =>
    match h.client.accept with
    | some e => some (s, { h with phase := .returned (.notConnected e) })
    | none =>
      -- the socket is appended before the user is looked up
      match getCurrentUserWs E db h.request with
      | none => some (ConnectionManager.connect s h.websocket, { h with phase := .refusing })
      | some user =>
        some (ConnectionManager.connect s h.websocket, { h with phase := .welcoming user })
  | .refusing =>
    match h.client.send h.sends with
    | none =>
      some (s.deliver h.websocket (errorText "Authentication required".toList),
        h.afterSend (.returned .refused))
    | some e =>
      some ((outerExcept s h.websocket e).1, h.afterSend (.returned (outerExcept s h.websocket e).2))
  | .welcoming user =>
    match h.client.send h.sends with
    | none => some (s.deliver h.websocket (dumps (welcomeMessage user)), h.afterSend (.waiting user))
    | some e =>
      -- `send_personal_message` catches an `Exception` of the send and disconnects
      if isException e then
        some (ConnectionManager.disconnect s h.websocket, h.afterSend (.waiting user))
      else some (s, h.afterSend (.returned (.escaped e)))
  | .waiting user =>
    let phase := match h.client.receive h.receives with
      | .ok data =>
        match replyTo loads user data with
        | .ok text => .replying user text
        | .error e => innerExcept user e
      | .error e => innerExcept user e
    some (s, { h with receives := h.receives + 1, phase := phase })
  | .replying user text =>
    match h.client.send h.sends with
    | none => some (s.deliver h.websocket text, h.afterSend (.waiting user))
    | some e => some (s, h.afterSend (innerExcept user e))
  | .reporting user text =>
    match h.client.send h.sends with
    | none => some (s.deliver h.websocket text, h.afterSend (.waiting user))
    | some e =>
      -- a send in an `except` clause of the loop raises into the outer `try`
      some ((outerExcept s h.websocket e).1, h.afterSend (.returned (outerExcept s h.websocket e).2))
  | .returned _ => none

/-! ## One step -/

section Steps

variable {E : AuthEnv} {db : AuthDb} {loads : Str → Except Exc JValue}

/-- What one step does to the registry: the handshake of a connecting run appends its socket
and leaves the run connected; any other step removes the run's socket, or keeps the registry
and keeps a connected run connected. -/
theorem websocketEndpoint_cases {s s' : Server} {h h' : Handler}
    (hstep : websocketEndpoint E db loads s h = some (s', h')) :
    h'.websocket = h.websocket ∧
      ((h.phase = .connecting ∧ h'.phase.connected ∧
          s'.active_connections = s.active_connections ++ [h.websocket]) ∨
        s'.active_connections = s.active_connections.erase h.websocket ∨
        (s'.active_connections = s.active_connections ∧
          (h.phase.connected → h'.phase.connected))) := by
  unfold websocketEndpoint at hstep
  split at hstep
  next hph =>
    -- the handshake: the socket is appended whenever `accept` returns
    split at hstep
    · cases hstep
      exact ⟨rfl, Or.inr (Or.inr ⟨rfl, by simp [hph, Phase.connected]⟩)⟩
    · split at hstep <;> cases hstep <;> exact ⟨rfl, Or.inl ⟨hph, rfl, rfl⟩⟩
  next =>
    split at hstep
    · cases hstep
      exact ⟨rfl, Or.inr (Or.inr ⟨rfl, fun _ => rfl⟩)⟩
    · next e _ =>
      cases hstep
      rcases outerExcept_cases s h.websocket e with h1 | ⟨h1, h2⟩
      · exact ⟨rfl, Or.inr (Or.inl h1)⟩
      · exact ⟨rfl, Or.inr (Or.inr ⟨by rw [h1], fun _ => h2⟩)⟩
  next user _ =>
    split at hstep
    · cases hstep
      exact ⟨rfl, Or.inr (Or.inr ⟨rfl, fun _ => rfl⟩)⟩
    · split at hstep <;> cases hstep
      · exact ⟨rfl, Or.inr (Or.inl (ConnectionManager.active_connections_disconnect _ _))⟩
      · exact ⟨rfl, Or.inr (Or.inr ⟨rfl, fun _ => rfl⟩)⟩
  next user _ =>
    cases hstep
    refine ⟨rfl, Or.inr (Or.inr ⟨rfl, fun _ => ?_⟩)⟩
    -- a receive moves to a reply or to an `except` clause of the loop
    dsimp only
    split
    · split
      · rfl
      · exact connected_innerExcept _ _
    · exact connected_innerExcept _ _
  next user text _ =>
    split at hstep <;> cases hstep
    · exact ⟨rfl, Or.inr (Or.inr ⟨rfl, fun _ => rfl⟩)⟩
    · exact ⟨rfl, Or.inr (Or.inr ⟨rfl, fun _ => connected_innerExcept _ _⟩)⟩
  next user text _ =>
    split at hstep
    · cases hstep
      exact ⟨rfl, Or.inr (Or.inr ⟨rfl, fun _ => rfl⟩)⟩
    · next e _ =>
      cases hstep
      rcases outerExcept_cases s h.websocket e with h1 | ⟨h1, h2⟩
      · exact ⟨rfl, Or.inr (Or.inl h1)⟩
      · exact ⟨rfl, Or.inr (Or.inr ⟨by rw [h1], fun _ => h2⟩)⟩
  next => cases hstep

end Steps

/-! ## The registry over every interleaving -/

/-- The registry invariant: no socket twice in the registry, the runs' sockets distinct, and
every registered socket the socket of a connected run. -/
structure RegistryInv (c : Sys Server Handler) : Prop where
  nodup : c.shared.active_connections.Nodup
  distinct : (c.procs.map (·.websocket)).Nodup
  owned : ∀ w ∈ c.shared.active_connections,
    ∃ (i : Nat) (h : Handler), c.procs[i]? = some h ∧ h.websocket = w ∧ h.phase.connected = true

/-- Runs on distinct sockets hold distinct positions. -/
theorem index_eq_of_websocket {ls : List Handler} (hd : (ls.map (·.websocket)).Nodup)
    {i j : Nat} {h g : Handler} (hi : ls[i]? = some h) (hj : ls[j]? = some g)
    (hw : g.websocket = h.websocket) : j = i := by
  obtain ⟨hil, rfl⟩ := List.getElem?_eq_some_iff.1 hi
  obtain ⟨hjl, rfl⟩ := List.getElem?_eq_some_iff.1 hj
  have hil' : i < (ls.map (·.websocket)).length := by simpa using hil
  have hjl' : j < (ls.map (·.websocket)).length := by simpa using hjl
  have heq : (ls.map (·.websocket))[j] = (ls.map (·.websocket))[i] := by simpa using hw
  exact (hd.getElem_inj_iff).1 heq

/-- A run that keeps its socket keeps the runs' sockets as they were. -/
theorem map_websocket_set {ls : List Handler} {i : Nat} {h h' : Handler} (hi : ls[i]? = some h)
    (hw : h'.websocket = h.websocket) : (ls.set i h').map (·.websocket) = ls.map (·.websocket) := by
  apply List.ext_getElem?
  intro k
  rw [List.getElem?_map, List.getElem?_map]
  by_cases hk : i = k
  · subst hk
    rw [List.getElem?_set_self (List.getElem?_eq_some_iff.1 hi).1, hi]
    simp [hw]
  · rw [List.getElem?_set_ne hk]

/-- A registered socket that is not the socket of the run that moved keeps its owner. -/
theorem owned_set {ls : List Handler} {i : Nat} {h : Handler} (h' : Handler) (hi : ls[i]? = some h)
    {w : Nat} (hw : w ≠ h.websocket)
    (howner : ∃ (j : Nat) (g : Handler), ls[j]? = some g ∧ g.websocket = w ∧
      g.phase.connected = true) :
    ∃ (j : Nat) (g : Handler), (ls.set i h')[j]? = some g ∧ g.websocket = w ∧
      g.phase.connected = true := by
  obtain ⟨j, g, hj, hgw, hg⟩ := howner
  have hji : i ≠ j := by
    rintro rfl
    rw [hi, Option.some.injEq] at hj
    exact hw (hj ▸ hgw).symm
  exact ⟨j, g, by rw [List.getElem?_set_ne hji, hj], hgw, hg⟩

section Steps

variable {E : AuthEnv} {db : AuthDb} {loads : Str → Except Exc JValue}

/-- A registered socket of a run is held by that run, which is therefore connected. -/
theorem RegistryInv.connected_of_mem {s : Server} {ls : List Handler} {i : Nat} {h : Handler}
    (hinv : RegistryInv ⟨s, ls⟩) (hi : ls[i]? = some h)
    (hmem : h.websocket ∈ s.active_connections) : h.phase.connected = true := by
  obtain ⟨j, g, hj, hgw, hg⟩ := hinv.owned _ hmem
  rw [index_eq_of_websocket hinv.distinct hi hj hgw, hi, Option.some.injEq] at hj
  exact hj ▸ hg

theorem registryInv_step {s s' : Server} {ls : List Handler} {i : Nat} {h h' : Handler}
    (hi : ls[i]? = some h) (hstep : websocketEndpoint E db loads s h = some (s', h'))
    (hinv : RegistryInv ⟨s, ls⟩) : RegistryInv ⟨s', ls.set i h'⟩ := by
  obtain ⟨hw, hcase⟩ := websocketEndpoint_cases hstep
  have hself : (ls.set i h')[i]? = some h' :=
    List.getElem?_set_self (List.getElem?_eq_some_iff.1 hi).1
  refine ⟨?_, by rw [map_websocket_set hi hw]; exact hinv.distinct, ?_⟩ <;>
    rcases hcase with ⟨hph, hconn, hs'⟩ | hs' | ⟨hs', hkeep⟩
  · -- the handshake: the socket was not registered, since its run was not connected
    have hnot : h.websocket ∉ s.active_connections := by
      intro hmem
      have hc := hinv.connected_of_mem hi hmem
      rw [hph] at hc
      exact Bool.false_ne_true hc
    show s'.active_connections.Nodup
    rw [hs']
    exact List.nodup_append.2 ⟨hinv.nodup, List.nodup_singleton _,
      fun a ha b hb hab => hnot (by rw [← List.mem_singleton.1 hb, ← hab]; exact ha)⟩
  · show s'.active_connections.Nodup
    rw [hs']
    exact hinv.nodup.erase _
  · show s'.active_connections.Nodup
    rw [hs']
    exact hinv.nodup
  · intro w hmem
    change w ∈ s'.active_connections at hmem
    rw [hs', List.mem_append, List.mem_singleton] at hmem
    rcases hmem with hmem | rfl
    · have hne : w ≠ h.websocket := by
        rintro rfl
        have hc := hinv.connected_of_mem hi hmem
        rw [hph] at hc
        exact Bool.false_ne_true hc
      exact owned_set h' hi hne (hinv.owned w hmem)
    · exact ⟨i, h', hself, hw, hconn⟩
  · intro w hmem
    change w ∈ s'.active_connections at hmem
    rw [hs', hinv.nodup.mem_erase_iff] at hmem
    exact owned_set h' hi hmem.1 (hinv.owned w hmem.2)
  · intro w hmem
    change w ∈ s'.active_connections at hmem
    rw [hs'] at hmem
    by_cases hwh : w = h.websocket
    · -- the run that moved owns the socket, and a connected run stays connected
      subst hwh
      exact ⟨i, h', hself, hw, hkeep (hinv.connected_of_mem hi hmem)⟩
    · exact owned_set h' hi hwh (hinv.owned w hmem)

end Steps

/-- The invariant holds of any runs on distinct sockets with nothing registered. -/
theorem registryInv_start (delivered : List (Nat × Str)) {runs : List Handler}
    (hd : (runs.map (·.websocket)).Nodup) : RegistryInv ⟨⟨[], delivered⟩, runs⟩ :=
  ⟨List.nodup_nil, hd, fun _ hw => absurd hw List.not_mem_nil⟩

/-- In every interleaving of the runs, the registry holds each socket at most once, and only
sockets of connected runs. -/
theorem registryInv_run (E : AuthEnv) (db : AuthDb) (loads : Str → Except Exc JValue)
    {c : Sys Server Handler} (hc : RegistryInv c) (sched : List Nat) :
    RegistryInv (run (websocketEndpoint E db loads) c sched) :=
  run_invariant RegistryInv (fun _ _ _ _ _ _ hi hstep hinv => registryInv_step hi hstep hinv) hc
    sched

/-- A registered socket belongs to a run past its handshake that is running, or that returned
after the authentication error, or that an exception other than an `Exception` ended; and a run
without a token that can send its error returns with its socket registered. -/
theorem refused_socket_stays_registered :
    (∀ (E : AuthEnv) (db : AuthDb) (loads : Str → Except Exc JValue) (runs : List Handler),
      (runs.map (·.websocket)).Nodup → ∀ sched : List Nat,
        let c := run (websocketEndpoint E db loads) ⟨⟨[], []⟩, runs⟩ sched
        ∀ w ∈ c.shared.active_connections, ∃ h ∈ c.procs, h.websocket = w ∧
          h.phase ≠ .connecting ∧ (h.phase.running = true ∨ h.phase = .returned .refused ∨
            ∃ e, h.phase = .returned (.escaped e))) ∧
    (∀ (E : AuthEnv) (db : AuthDb) (loads : Str → Except Exc JValue) (w : Nat) (client : Client),
      client.accept = none → client.send 0 = none →
        let c := run (websocketEndpoint E db loads)
          ⟨⟨[], []⟩, [⟨w, ⟨none, none, none⟩, client, 0, 0, .connecting⟩]⟩ [0, 0]
        c.procs.map (·.phase) = [.returned .refused] ∧ w ∈ c.shared.active_connections) := by
  constructor
  · intro E db loads runs hd sched c w hw
    obtain ⟨i, h, hi, hhw, hconn⟩ :=
      (registryInv_run E db loads (registryInv_start [] hd) sched).owned w hw
    exact ⟨h, List.mem_of_getElem? hi, hhw, (connected_iff h.phase).1 hconn⟩
  · intro E db loads w client hacc hsend
    -- the handshake appends the socket, then the error is sent and the run returns
    simp [run, step, websocketEndpoint, hacc, hsend, getCurrentUserWs, ConnectionManager.connect,
      Server.deliver, Handler.afterSend]

end Websocket

end RagService.Api
