import Chronik.Client.Hex
import Chronik.Proto.Ws

/-! # The subscriptions of `WsEndpoint`

A `WsEndpoint` keeps the pairs it is subscribed to in `_subs` and a WebSocket `_ws`. `subscribe`
and `unsubscribe` update `_subs`, then send a `Subscription` frame with `_subUnsub`; the socket's
`onopen` handler sends a subscribe frame for every entry of `_subs` (the replay) and resolves the
promise `waitForOpen` awaits; its `onclose` handler returns if `close()` was called, and otherwise
calls `config.onReconnect` and then `_connect()`, which makes a new socket.

The model is a state machine over the endpoint's fields. Its steps are the user's calls and the
socket's events, `Action`, in any interleaving: the open event (with the `onopen` handler), the
loss of the connection, and the close event (with the `onclose` handler and the calls
`config.onReconnect` makes on the endpoint, `Call`, between the `_closed` check and `_connect()`).
A socket records the frames sent on it, each by the entry and the flag `_subUnsub` built it from
(`Frame.data` is the bytes); `send` throws while the socket is CONNECTING and drops the frame once
it is closing.

* `replay_keeps_subscriptions_in_step`: after every run whose payloads `fromHex` accepts, on an open
  socket the last frame for each pair subscribes exactly when the pair is in `_subs`; `unsubscribe`
  removes the pair, and until it is subscribed again no replay sends a frame for it; after a drop
  the close event makes a new socket, which opens, sends one subscribe frame per entry of `_subs`
  and resolves.
* `subscribe` appends to `_subs` before `_subUnsub` can throw, so a payload `fromHex` rejects stays
  in `_subs`; the next `onopen` handler then throws at it, sends no frame for the entries after it,
  and never resolves (`bad_payload_poisons_replay`, `replay_stops_at_unencodable`).
* `close_is_final_unless_in_onReconnect`: after a `close()` of the user, no run sends a frame, opens
  the socket again or makes a new one. A `close()` made by `config.onReconnect` comes after the
  `_closed` check, so `_connect()` still makes a new socket, which opens and replays `_subs`. -/

namespace Chronik
open Hex

/-- An entry of `_subs`: `{ scriptType, scriptPayload }`. -/
structure ScriptSub where
  scriptType : String
  scriptPayload : String
  deriving DecidableEq, Repr

/-- `fromHex` accepts the payload, so `_subUnsub` can build the frame. -/
def ScriptSub.encodable (sub : ScriptSub) : Bool := (fromHex sub.scriptPayload).isSome

/-- A frame `_subUnsub` sent, by the entry and `isSubscribe` it was built from. -/
structure Frame where
  sub : ScriptSub
  isSubscribe : Bool
  deriving DecidableEq, Repr

/-- The bytes of a frame: `proto.Subscription.encode({ isSubscribe, scriptType, payload:
fromHex(scriptPayload) }).finish()`. -/
def Frame.data (frame : Frame) : Bytes :=
  Subscription.encode ⟨frame.sub.scriptType, (fromHex frame.sub.scriptPayload).getD [], frame.isSubscribe⟩

/-- The `readyState` of a WebSocket; `closing` is CLOSING, or CLOSED before the close event. -/
inductive ReadyState where
  | connecting | open | closing | closed
  deriving DecidableEq, Repr

/-- A WebSocket as the endpoint uses it: its state, the frames sent on it in order, and whether
the promise `_connected` made with it has resolved. -/
structure Socket where
  readyState : ReadyState
  sent : List Frame
  connected : Bool
  deriving DecidableEq, Repr

/-- The socket `new WebSocket(this._wsUrl)`, and the promise `_connected` made with it. -/
def Socket.new : Socket := ⟨.connecting, [], false⟩

/-- What a call throws: `fromHex` on a payload that is not hex, or `send` on a socket that is
still CONNECTING (`InvalidStateError`). -/
inductive WsError where
  | invalidHex
  | notOpen
  deriving DecidableEq, Repr

/-- The call `ws.send(data)`: it throws while CONNECTING, sends when OPEN, and drops the data once
the socket is closing or closed. -/
def Socket.send (ws : Socket) (frame : Frame) : Except WsError Socket :=
  match ws.readyState with
  | .connecting => .error .notOpen
  | .open => .ok { ws with sent := ws.sent ++ [frame] }
  | .closing | .closed => .ok ws

/-- The call `ws.close()`. -/
def Socket.close (ws : Socket) : Socket :=
  match ws.readyState with
  | .connecting | .open => { ws with readyState := .closing }
  | .closing | .closed => ws

/-- The fields of a `WsEndpoint`: `_subs`, `_closed` and `_ws`, with its promise `_connected`.
`_ws` is set by the constructor's `_connect()`, so `_subUnsub`'s `"Invalid state; _ws is
undefined"` is never thrown. -/
structure WsEndpoint where
  subs : List ScriptSub
  closed : Bool
  ws : Socket
  deriving DecidableEq, Repr

/-- A call `config.onReconnect` makes on the endpoint. -/
inductive Call where
  | subscribe (sub : ScriptSub)
  | unsubscribe (sub : ScriptSub)
  | close
  deriving DecidableEq, Repr

/-- The calls of the user and the events of the socket `_ws`. -/
inductive Action where
  | subscribe (sub : ScriptSub)
  | unsubscribe (sub : ScriptSub)
  | close
  /-- The socket opens: readyState OPEN, then its `onopen` handler. -/
  | onopen
  /-- The connection fails or is lost: readyState CLOSING. -/
  | lost
  /-- The close event: readyState CLOSED, then its `onclose` handler, in which
  `config.onReconnect(e)` makes the calls `onReconnect` and returns, or throws after them when
  `threw` (an undefined `onReconnect` makes no call and returns). -/
  | onclose (onReconnect : List Call) (threw : Bool)
  deriving DecidableEq, Repr

/-- The payload of a call is one `fromHex` accepts. -/
def Call.payloadAccepted : Call → Bool
  | .subscribe sub | .unsubscribe sub => sub.encodable
  | .close => true

/-- The payloads of an action's calls are ones `fromHex` accepts. -/
def Action.payloadAccepted : Action → Bool
  | .subscribe sub | .unsubscribe sub => sub.encodable
  | .close | .onopen | .lost => true
  | .onclose onReconnect _ => onReconnect.all Call.payloadAccepted

/-- The call subscribes to `p`. -/
def Call.subscribes (p : ScriptSub) : Call → Bool
  | .subscribe sub => sub == p
  | .unsubscribe _ | .close => false

/-- The action subscribes to `p`, itself or by a call of `config.onReconnect`. -/
def Action.subscribes (p : ScriptSub) : Action → Bool
  | .subscribe sub => sub == p
  | .onclose onReconnect _ => onReconnect.any (Call.subscribes p)
  | .unsubscribe _ | .close | .onopen | .lost => false

namespace WsEndpoint

/-- The constructor: `_closed = false`, `_subs = []`, then `_connect()`. -/
def new : WsEndpoint := ⟨[], false, Socket.new⟩

/-- The call `_subUnsub(isSubscribe, scriptType, scriptPayload)`: `fromHex` builds the frame's
payload, then the frame is sent on `_ws`. -/
def subUnsub (ws : Socket) (isSubscribe : Bool) (sub : ScriptSub) : Except WsError Socket :=
  match fromHex sub.scriptPayload with
  | none => .error .invalidHex
  | some _ => ws.send ⟨sub, isSubscribe⟩

/-- `_subs` set to `subs`, then `_subUnsub(isSubscribe, ...)`; what it throws leaves `_subs` as
set. -/
def setSubsThenSend (s : WsEndpoint) (subs : List ScriptSub) (isSubscribe : Bool) (sub : ScriptSub) :
    WsEndpoint × Except WsError Unit :=
  match subUnsub s.ws isSubscribe sub with
  | .ok ws => ({ s with subs, ws }, .ok ())
  | .error e => ({ s with subs }, .error e)

/-- The call `subscribe(scriptType, scriptPayload)`: `this._subs.push(...)`, then
`_subUnsub(true, ...)`. -/
def subscribe (s : WsEndpoint) (sub : ScriptSub) : WsEndpoint × Except WsError Unit :=
  s.setSubsThenSend (s.subs ++ [sub]) true sub

/-- The call `unsubscribe(scriptType, scriptPayload)`: the `filter` of `_subs`, then
`_subUnsub(false, ...)`. -/
def unsubscribe (s : WsEndpoint) (sub : ScriptSub) : WsEndpoint × Except WsError Unit :=
  s.setSubsThenSend
    (s.subs.filter fun x => x.scriptType != sub.scriptType || x.scriptPayload != sub.scriptPayload) false sub

/-- The call `close()`: `_closed = true`, then `_ws.close()`. -/
def close (s : WsEndpoint) : WsEndpoint := { s with closed := true, ws := s.ws.close }

/-- A call of `config.onReconnect` on the endpoint; what it throws is the callback's to catch or
to let through. -/
def call (s : WsEndpoint) : Call → WsEndpoint
  | .subscribe sub => (s.subscribe sub).1
  | .unsubscribe sub => (s.unsubscribe sub).1
  | .close => s.close

/-- `this._subs.forEach(sub => this._subUnsub(true, ...))`: the socket after the frames sent, and
what the loop threw, which ends it. -/
def replay (ws : Socket) : List ScriptSub → Socket × Except WsError Unit
  | [] => (ws, .ok ())
  | sub :: subs =>
    match subUnsub ws true sub with
    | .ok ws => replay ws subs
    | .error e => (ws, .error e)

/-- The open event: readyState OPEN, then `onopen` replays `_subs` and calls `resolved(msg)`,
which a throw of the replay skips. -/
def onopen (s : WsEndpoint) : WsEndpoint :=
  let (ws, result) := replay { s.ws with readyState := .open } s.subs
  { s with ws := { ws with connected := result.toBool } }

/-- The connection fails or is lost. -/
def lost (s : WsEndpoint) : WsEndpoint := { s with ws := { s.ws with readyState := .closing } }

/-- The close event: readyState CLOSED, then `onclose` returns if `_closed`; otherwise
`config.onReconnect(e)` makes its calls on the endpoint, and `_connect()` makes a new socket
unless the callback threw. -/
def onclose (s : WsEndpoint) (onReconnect : List Call) (threw : Bool) : WsEndpoint :=
  let s := { s with ws := { s.ws with readyState := .closed } }
  if s.closed then s
  else
    let s := onReconnect.foldl call s
    if threw then s else { s with ws := Socket.new }

/-- One action; `none` when the socket cannot raise that event in its state. -/
def step (s : WsEndpoint) : Action → Option WsEndpoint
  | .subscribe sub => some (s.subscribe sub).1
  | .unsubscribe sub => some (s.unsubscribe sub).1
  | .close => some s.close
  | .onopen => if s.ws.readyState = .connecting then some s.onopen else none
  | .lost => if s.ws.readyState = .connecting ∨ s.ws.readyState = .open then some s.lost else none
  | .onclose onReconnect threw =>
    if s.ws.readyState = .closing then some (s.onclose onReconnect threw) else none

/-- A run of actions; `none` when one of its events cannot occur. -/
def run (s : WsEndpoint) : List Action → Option WsEndpoint
  | [] => some s
  | a :: actions => (s.step a).bind (run · actions)

end WsEndpoint

/-! ### Sending -/

/-- The flag of the last frame for `sub` among `sent`. -/
def lastFrame (sent : List Frame) (sub : ScriptSub) : Option Bool :=
  sent.foldl (fun last f => if f.sub = sub then some f.isSubscribe else last) none

theorem lastFrame_append_singleton (sent : List Frame) (f : Frame) (sub : ScriptSub) :
    lastFrame (sent ++ [f]) sub = if f.sub = sub then some f.isSubscribe else lastFrame sent sub := by
  simp [lastFrame, List.foldl_append]

/-- After frames that all subscribe, the last frame for `sub` subscribes exactly when one of them
is for `sub`; with none, the last frame is the one before. -/
theorem foldl_subscribing (sub : ScriptSub) : ∀ (subs : List ScriptSub) (last : Option Bool),
    (subs.map (Frame.mk · true)).foldl (fun last f => if f.sub = sub then some f.isSubscribe else last) last =
      if sub ∈ subs then some true else last
  | [], _ => rfl
  | x :: subs, last => by
    rw [List.map_cons, List.foldl_cons, foldl_subscribing sub subs]
    by_cases hx : x = sub
    · simp [hx]
    · simp [hx, Ne.symm hx]

theorem lastFrame_subscribing (subs : List ScriptSub) (sub : ScriptSub) :
    lastFrame (subs.map (Frame.mk · true)) sub = some true ↔ sub ∈ subs := by
  rw [lastFrame, foldl_subscribing]
  split <;> simp_all

theorem subUnsub_encodable {ws : Socket} {isSubscribe : Bool} {sub : ScriptSub} (h : sub.encodable = true) :
    WsEndpoint.subUnsub ws isSubscribe sub = ws.send ⟨sub, isSubscribe⟩ := by
  obtain ⟨payload, hp⟩ := Option.isSome_iff_exists.mp h
  rw [WsEndpoint.subUnsub, hp]

theorem subUnsub_of_not_encodable {ws : Socket} {isSubscribe : Bool} {sub : ScriptSub}
    (h : sub.encodable = false) : WsEndpoint.subUnsub ws isSubscribe sub = .error .invalidHex := by
  have hn : fromHex sub.scriptPayload = none := by simpa [ScriptSub.encodable] using h
  rw [WsEndpoint.subUnsub, hn]

/-- What one send does to the socket, by its state. -/
theorem send_cases (ws : Socket) (frame : Frame) :
    (ws.readyState = .connecting ∧ ws.send frame = .error .notOpen) ∨
    (ws.readyState = .open ∧ ws.send frame = .ok { ws with sent := ws.sent ++ [frame] }) ∨
    ((ws.readyState = .closing ∨ ws.readyState = .closed) ∧ ws.send frame = .ok ws) := by
  unfold Socket.send
  cases ws.readyState <;> simp

/-- The replay on an open socket sends a subscribe frame for each entry up to the first one `fromHex`
rejects, and throws exactly when there is one. -/
theorem replay_open (ws : Socket) (h : ws.readyState = .open) : ∀ subs : List ScriptSub,
    WsEndpoint.replay ws subs =
      ({ ws with sent := ws.sent ++ (subs.takeWhile ScriptSub.encodable).map (Frame.mk · true) },
        if subs.all ScriptSub.encodable then .ok () else .error .invalidHex)
  | [] => by simp [WsEndpoint.replay]
  | sub :: subs => by
    cases hs : sub.encodable
    · simp [WsEndpoint.replay, subUnsub_of_not_encodable hs, hs]
    · have hsend : ws.send ⟨sub, true⟩ = .ok { ws with sent := ws.sent ++ [⟨sub, true⟩] } := by
        simp [Socket.send, h]
      rw [WsEndpoint.replay, subUnsub_encodable hs, hsend]
      dsimp only
      rw [replay_open { ws with sent := ws.sent ++ [⟨sub, true⟩] } h subs]
      simp [hs]

/-- The `onopen` handler sends a subscribe frame for each entry of `_subs` up to the first one
`fromHex` rejects, and resolves `_connected` exactly when `fromHex` accepts every entry. -/
theorem onopen_replay (s : WsEndpoint) :
    s.onopen.ws.readyState = .open ∧
    s.onopen.ws.sent = s.ws.sent ++ (s.subs.takeWhile ScriptSub.encodable).map (Frame.mk · true) ∧
    (s.onopen.ws.connected = true ↔ ∀ sub ∈ s.subs, sub.encodable = true) ∧ s.onopen.subs = s.subs := by
  rw [WsEndpoint.onopen, replay_open { s.ws with readyState := .open } rfl]
  refine ⟨rfl, rfl, ?_, rfl⟩
  dsimp only
  rw [← List.all_eq_true]
  cases s.subs.all ScriptSub.encodable <;> decide

@[simp] theorem onopen_closed (s : WsEndpoint) : s.onopen.closed = s.closed := rfl

/-! ### What each action does to `_subs` -/

namespace WsEndpoint

theorem subscribe_subs (s : WsEndpoint) (sub : ScriptSub) :
    (s.subscribe sub).1.subs = s.subs ++ [sub] := by
  unfold subscribe setSubsThenSend
  split <;> rfl

theorem unsubscribe_subs (s : WsEndpoint) (sub : ScriptSub) :
    (s.unsubscribe sub).1.subs =
      s.subs.filter fun x => x.scriptType != sub.scriptType || x.scriptPayload != sub.scriptPayload := by
  unfold unsubscribe setSubsThenSend
  split <;> rfl

theorem call_subs_mem {s : WsEndpoint} {c : Call} {p : ScriptSub} (h : p ∈ (s.call c).subs) :
    p ∈ s.subs ∨ c.subscribes p = true := by
  cases c with
  | subscribe sub =>
    rcases List.mem_append.mp (subscribe_subs s sub ▸ h) with h | h
    · exact .inl h
    · simp [Call.subscribes, List.mem_singleton.mp h]
  | unsubscribe sub => exact .inl (List.mem_filter.mp (unsubscribe_subs s sub ▸ h)).1
  | close => exact .inl h

theorem foldl_call_subs_mem {p : ScriptSub} : ∀ {calls : List Call} {s : WsEndpoint},
    p ∈ (calls.foldl call s).subs → p ∈ s.subs ∨ calls.any (Call.subscribes p) = true
  | [], _, h => .inl h
  | c :: calls, s, h => by
    rw [List.any_cons, Bool.or_eq_true]
    rcases @foldl_call_subs_mem p calls (s.call c) h with h | h
    · exact (call_subs_mem h).imp_right .inl
    · exact .inr (.inr h)

theorem onclose_subs_mem {s : WsEndpoint} {onReconnect : List Call} {threw : Bool} {p : ScriptSub}
    (h : p ∈ (s.onclose onReconnect threw).subs) :
    p ∈ s.subs ∨ onReconnect.any (Call.subscribes p) = true := by
  dsimp only [onclose] at h
  split at h
  · exact .inl h
  · split at h <;> exact foldl_call_subs_mem (s := { s with ws := { s.ws with readyState := .closed } }) h

/-- An entry after a step was there before, or the step subscribed to it. -/
theorem step_subs_mem {s s' : WsEndpoint} {a : Action} {p : ScriptSub} (h : s.step a = some s')
    (hp : p ∈ s'.subs) : p ∈ s.subs ∨ a.subscribes p = true := by
  cases a with
  | subscribe sub => cases h; exact call_subs_mem (c := .subscribe sub) hp
  | unsubscribe sub => cases h; exact call_subs_mem (c := .unsubscribe sub) hp
  | close => cases h; exact .inl hp
  | onopen =>
    simp only [step] at h
    split at h <;> cases h
    exact .inl ((onopen_replay s).2.2.2 ▸ hp)
  | lost =>
    simp only [step] at h
    split at h <;> cases h
    exact .inl hp
  | onclose onReconnect threw =>
    simp only [step] at h
    split at h <;> cases h
    exact onclose_subs_mem hp

/-- An action whose payloads `fromHex` accepts subscribes only to encodable pairs. -/
theorem encodable_of_subscribes {a : Action} {p : ScriptSub} (ha : a.payloadAccepted = true)
    (hp : a.subscribes p = true) : p.encodable = true := by
  cases a with
  | subscribe sub =>
    cases beq_iff_eq.mp hp
    exact ha
  | onclose onReconnect threw =>
    obtain ⟨c, hc, hcp⟩ := List.any_eq_true.mp hp
    cases c with
    | subscribe sub =>
      cases beq_iff_eq.mp hcp
      exact List.all_eq_true.mp ha _ hc
    | unsubscribe | close => cases hcp
  | unsubscribe | close | onopen | lost => cases hp

/-- A frame sent on a closing or closed socket is dropped: `_subUnsub` leaves such a socket as it
is, or throws at the payload. -/
theorem subUnsub_down {ws : Socket} (h : ws.readyState = .closing ∨ ws.readyState = .closed)
    (isSubscribe : Bool) (sub : ScriptSub) :
    subUnsub ws isSubscribe sub = .ok ws ∨ subUnsub ws isSubscribe sub = .error .invalidHex := by
  cases henc : sub.encodable
  · exact .inr (subUnsub_of_not_encodable henc)
  · rw [subUnsub_encodable henc]
    rcases h with h | h <;> simp [Socket.send, h]

theorem setSubsThenSend_down {s : WsEndpoint} (h : s.ws.readyState = .closing ∨ s.ws.readyState = .closed)
    (subs : List ScriptSub) (isSubscribe : Bool) (sub : ScriptSub) :
    (s.setSubsThenSend subs isSubscribe sub).1 = { s with subs } := by
  unfold setSubsThenSend
  rcases subUnsub_down h isSubscribe sub with h | h <;> rw [h]

/-- A call on an endpoint whose socket is closing or closed leaves the socket as it is. -/
theorem call_ws {s : WsEndpoint} (h : s.ws.readyState = .closing ∨ s.ws.readyState = .closed) :
    ∀ c, (s.call c).ws = s.ws
  | .subscribe sub => by rw [call, subscribe, setSubsThenSend_down h]
  | .unsubscribe sub => by rw [call, unsubscribe, setSubsThenSend_down h]
  | .close => by
    simp only [call, close, Socket.close]
    rcases h with h | h <;> simp [h]

theorem foldl_call_ws : ∀ {calls : List Call} {s : WsEndpoint},
    (s.ws.readyState = .closing ∨ s.ws.readyState = .closed) → (calls.foldl call s).ws = s.ws
  | [], _, _ => rfl
  | c :: calls, s, h => by
    rw [List.foldl_cons, foldl_call_ws (call_ws h c ▸ h), call_ws h c]

/-- After the close event the socket is closed for good, or the new socket of `_connect()`. -/
theorem onclose_ws (s : WsEndpoint) (onReconnect : List Call) (threw : Bool) :
    (s.onclose onReconnect threw).ws.readyState = .closed ∨ (s.onclose onReconnect threw).ws = Socket.new := by
  dsimp only [onclose]
  split
  · exact .inl rfl
  · split
    · exact .inl (by rw [foldl_call_ws (s := { s with ws := { s.ws with readyState := .closed } }) (.inr rfl)])
    · exact .inr rfl

/-- Unless `close()` was called before it, the close event runs `config.onReconnect` and, unless
that threw, `_connect()`. -/
theorem onclose_of_not_closed {s : WsEndpoint} (h : s.closed = false) (onReconnect : List Call) :
    s.onclose onReconnect false =
      { onReconnect.foldl call { s with ws := { s.ws with readyState := .closed } } with ws := Socket.new } := by
  simp [onclose, h]

end WsEndpoint

/-! ### Subscriptions in step with the socket -/

namespace WsEndpoint

/-- What holds after every run whose payloads `fromHex` accepts: every entry is encodable, a
socket still connecting has sent nothing, and on an open socket the last frame for each pair
subscribes exactly when the pair is in `_subs`. -/
structure InStep (s : WsEndpoint) : Prop where
  encodable : ∀ sub ∈ s.subs, sub.encodable = true
  fresh : s.ws.readyState = .connecting → s.ws.sent = []
  synced : s.ws.readyState = .open → ∀ p, lastFrame s.ws.sent p = some true ↔ p ∈ s.subs

theorem inStep_new : InStep new :=
  ⟨fun _ h => absurd h (List.not_mem_nil _), fun _ => rfl, (fun h => by cases h)⟩

/-- With its entries encodable, an endpoint is in step when its socket is neither connecting nor
open. -/
theorem inStep_of_down {s : WsEndpoint} (henc : ∀ sub ∈ s.subs, sub.encodable = true)
    (h : s.ws.readyState = .closing ∨ s.ws.readyState = .closed) : InStep s := by
  refine ⟨henc, fun hr => ?_, fun hr => ?_⟩ <;> rcases h with h | h <;> exact absurd (hr.symm.trans h) (by decide)

/-- A call that sets `_subs` and sends an encodable frame keeps the socket in step when the new
`_subs` holds the frame's pair exactly if it subscribes. -/
theorem setSubsThenSend_inStep {s : WsEndpoint} {subs : List ScriptSub} {isSubscribe : Bool}
    {sub : ScriptSub} (hs : InStep s) (henc : sub.encodable = true)
    (hsubs : ∀ sub' ∈ subs, sub'.encodable = true)
    (hmem : ∀ p, p ∈ subs ↔ if sub = p then isSubscribe = true else p ∈ s.subs) :
    InStep (s.setSubsThenSend subs isSubscribe sub).1 := by
  rw [setSubsThenSend, subUnsub_encodable henc]
  rcases send_cases s.ws ⟨sub, isSubscribe⟩ with ⟨hr, he⟩ | ⟨hr, he⟩ | ⟨hr, he⟩ <;> rw [he]
  · exact ⟨hsubs, hs.fresh, fun h => absurd (h.symm.trans hr) (by decide)⟩
  · refine ⟨hsubs, fun h => absurd (h.symm.trans hr) (by decide), fun _ p => ?_⟩
    rw [lastFrame_append_singleton, hmem p]
    split
    · cases isSubscribe <;> simp
    · exact hs.synced hr p
  · exact inStep_of_down hsubs hr

theorem step_inStep {s s' : WsEndpoint} {a : Action} (hs : InStep s) (ha : a.payloadAccepted = true)
    (h : s.step a = some s') : InStep s' := by
  have henc : ∀ sub ∈ s'.subs, sub.encodable = true := fun sub hsub =>
    (step_subs_mem h hsub).elim (hs.encodable sub) (encodable_of_subscribes ha)
  cases a with
  | subscribe sub =>
    cases h
    refine setSubsThenSend_inStep hs ha (subscribe_subs s sub ▸ henc) fun p => ?_
    by_cases hp : sub = p <;> simp [hp, Ne.symm]
  | unsubscribe sub =>
    cases h
    refine setSubsThenSend_inStep hs ha (unsubscribe_subs s sub ▸ henc) fun p => ?_
    by_cases hp : sub = p
    · subst hp
      simp
    · have : p.scriptType ≠ sub.scriptType ∨ p.scriptPayload ≠ sub.scriptPayload := by
        by_contra hc
        push_neg at hc
        exact hp (by cases p; cases sub; simp_all)
      simp [hp, List.mem_filter, this]
  | close =>
    cases h
    refine inStep_of_down henc ?_
    simp only [close, Socket.close]
    split <;> simp_all
  | onopen =>
    simp only [step] at h
    split at h <;> cases h
    obtain ⟨hopen, hsent, -, hsubs⟩ := onopen_replay s
    have hall : s.subs.takeWhile ScriptSub.encodable = s.subs :=
      List.takeWhile_eq_self_iff.mpr hs.encodable
    refine ⟨henc, fun h => absurd (h.symm.trans hopen) (by decide), fun _ p => ?_⟩
    rw [hsent, hs.fresh ‹_›, List.nil_append, hall, hsubs]
    exact lastFrame_subscribing s.subs p
  | lost =>
    simp only [step] at h
    split at h <;> cases h
    exact inStep_of_down henc (.inl rfl)
  | onclose onReconnect threw =>
    simp only [step] at h
    split at h <;> cases h
    rcases onclose_ws s onReconnect threw with hr | hws
    · exact inStep_of_down henc (.inr hr)
    · exact ⟨henc, fun _ => by rw [hws]; rfl, fun hr => absurd (hws ▸ hr) (by decide)⟩

theorem run_inStep {s : WsEndpoint} (hs : InStep s) : ∀ {actions : List Action} {s' : WsEndpoint},
    (∀ a ∈ actions, a.payloadAccepted = true) → s.run actions = some s' → InStep s'
  | [], _, _, h => by cases h; exact hs
  | a :: actions, s', hgood, h => by
    rw [run] at h
    obtain ⟨t, ht, hrun⟩ := Option.bind_eq_some.mp h
    exact run_inStep (step_inStep hs (hgood a (List.mem_cons_self a actions)) ht)
      (fun b hb => hgood b (List.mem_cons_of_mem a hb)) hrun

/-- The close event of a dropped connection, then the open event of the new socket: the run exists,
and the new socket has sent one subscribe frame per entry of `_subs`, as `_subs` stands after
`config.onReconnect`'s calls, up to the first one `fromHex` rejects. -/
theorem reconnect_run {s : WsEndpoint} (hclosed : s.closed = false) (hr : s.ws.readyState = .closing)
    (onReconnect : List Call) :
    s.run [.onclose onReconnect false, .onopen] = some (s.onclose onReconnect false).onopen ∧
      (s.onclose onReconnect false).onopen.ws.sent =
        ((s.onclose onReconnect false).subs.takeWhile ScriptSub.encodable).map (Frame.mk · true) := by
  have hws : (s.onclose onReconnect false).ws = Socket.new := by rw [onclose_of_not_closed hclosed]
  refine ⟨by simp [run, step, hr, hws, Socket.new], ?_⟩
  rw [(onopen_replay _).2.1, hws]
  rfl

end WsEndpoint

/-- A subscription that `fromHex` accepts, with a one-byte payload. -/
def goodSub : ScriptSub := ⟨"p2pkh", "00"⟩

/-- A second subscription that `fromHex` accepts. -/
def otherSub : ScriptSub := ⟨"p2sh", "01"⟩

/-- `subscribe` appends to `_subs` whether or not `_subUnsub` throws. Every `onopen` handler sends
a subscribe frame for each entry of `_subs` up to the first one `fromHex` rejects, and resolves
`_connected` exactly when `fromHex` accepts every entry. After every run whose payloads `fromHex`
accepts, it accepts every entry, so every later `onopen` handler sends one frame per entry and
resolves. -/
theorem replay_stops_at_unencodable :
    (∀ (s : WsEndpoint) (sub : ScriptSub), (s.subscribe sub).1.subs = s.subs ++ [sub] ∧
      (sub.encodable = false → (s.subscribe sub).2 = .error .invalidHex)) ∧
    (∀ s : WsEndpoint,
      s.onopen.ws.sent = s.ws.sent ++ (s.subs.takeWhile ScriptSub.encodable).map (Frame.mk · true) ∧
      (s.onopen.ws.connected = true ↔ ∀ sub ∈ s.subs, sub.encodable = true)) ∧
    (∀ actions : List Action, (∀ a ∈ actions, a.payloadAccepted = true) → ∀ s, WsEndpoint.new.run actions = some s →
      s.onopen.ws.sent = s.ws.sent ++ s.subs.map (Frame.mk · true) ∧ s.onopen.ws.connected = true) := by
  refine ⟨fun s sub => ⟨WsEndpoint.subscribe_subs s sub, fun h => ?_⟩, fun s => ?_, fun actions hgood s hrun => ?_⟩
  · rw [WsEndpoint.subscribe, WsEndpoint.setSubsThenSend, subUnsub_of_not_encodable h]
  · obtain ⟨-, hsent, hconn, -⟩ := onopen_replay s
    exact ⟨hsent, hconn⟩
  · have henc := (WsEndpoint.run_inStep WsEndpoint.inStep_new hgood hrun).encodable
    obtain ⟨-, hsent, hconn, -⟩ := onopen_replay s
    rw [hsent, List.takeWhile_eq_self_iff.mpr henc]
    exact ⟨rfl, hconn.mpr henc⟩

/-- After a run whose payloads `fromHex` accepts, with a subscription made by `config.onReconnect`,
the next `onopen` handler sends one frame per entry of `_subs` and resolves. -/
theorem replay_after_accepted_run :
    ∃ s, WsEndpoint.new.run [.subscribe goodSub, .onopen, .lost, .onclose [.subscribe otherSub] false] = some s ∧
      s.onopen.ws.sent = s.ws.sent ++ s.subs.map (Frame.mk · true) ∧ s.onopen.ws.connected = true :=
  ⟨_, rfl, replay_stops_at_unencodable.2.2
    [.subscribe goodSub, .onopen, .lost, .onclose [.subscribe otherSub] false] (by decide) _ rfl⟩

/-- A subscription whose payload is not hex. -/
def badSub : ScriptSub := ⟨"p2pkh", "zz"⟩

/-- Subscribing to `badSub` throws and leaves it in `_subs`. After a subscription to `goodSub`
while connecting, the socket opens and its `onopen` handler throws at `badSub`: no frame is sent,
`goodSub` is not replayed, and `_connected` never resolves. -/
theorem bad_payload_poisons_replay :
    WsEndpoint.new.subscribe badSub = (⟨[badSub], false, Socket.new⟩, .error .invalidHex) ∧
    WsEndpoint.new.run [.subscribe badSub, .subscribe goodSub, .onopen] =
      some ⟨[badSub, goodSub], false, ⟨.open, [], false⟩⟩ :=
  ⟨rfl, rfl⟩

/-! ### After `close()` -/

namespace WsEndpoint

/-- The state `close()` leaves: `_closed` is set and the socket is closing or closed. -/
structure Shut (s : WsEndpoint) : Prop where
  closed : s.closed = true
  socket : s.ws.readyState = .closing ∨ s.ws.readyState = .closed

theorem shut_close (s : WsEndpoint) : Shut s.close := by
  refine ⟨rfl, ?_⟩
  simp only [close, Socket.close]
  split <;> simp_all

/-- Each action on a shut endpoint keeps it shut and keeps its socket's frames and promise. -/
theorem step_shut {s s' : WsEndpoint} {a : Action} (hs : Shut s) (h : s.step a = some s') :
    Shut s' ∧ s'.ws.sent = s.ws.sent ∧ s'.ws.connected = s.ws.connected := by
  cases a with
  | subscribe sub =>
    cases h
    rw [subscribe, setSubsThenSend_down hs.socket]
    exact ⟨⟨hs.closed, hs.socket⟩, rfl, rfl⟩
  | unsubscribe sub =>
    cases h
    rw [unsubscribe, setSubsThenSend_down hs.socket]
    exact ⟨⟨hs.closed, hs.socket⟩, rfl, rfl⟩
  | close =>
    cases h
    refine ⟨shut_close s, ?_⟩
    simp only [close, Socket.close]
    split <;> simp
  | onopen | lost =>
    simp only [step] at h
    split at h
    · rcases hs.socket with hr | hr <;> simp_all
    · cases h
  | onclose onReconnect threw =>
    simp only [step] at h
    split at h <;> cases h
    rw [onclose, if_pos hs.closed]
    exact ⟨⟨hs.closed, .inr rfl⟩, rfl, rfl⟩

theorem run_shut {s : WsEndpoint} (hs : Shut s) : ∀ {actions : List Action} {s' : WsEndpoint},
    s.run actions = some s' → Shut s' ∧ s'.ws.sent = s.ws.sent ∧ s'.ws.connected = s.ws.connected
  | [], _, h => by cases h; exact ⟨hs, rfl, rfl⟩
  | a :: actions, s', h => by
    rw [run] at h
    obtain ⟨t, ht, hrun⟩ := Option.bind_eq_some.mp h
    obtain ⟨hts, hsent, hconn⟩ := step_shut hs ht
    obtain ⟨hs', hsent', hconn'⟩ := run_shut hts hrun
    exact ⟨hs', hsent'.trans hsent, hconn'.trans hconn⟩

/-- The calls of `config.onReconnect`, the last a `close()`, leave `_closed` set. -/
theorem foldl_call_close (s : WsEndpoint) (onReconnect : List Call) :
    ((onReconnect ++ [Call.close]).foldl call s).closed = true := by
  rw [List.foldl_append]
  rfl

end WsEndpoint

/-- A `close()` of the user is final: whatever the user calls and whatever events follow, the
endpoint sends no frame, never opens its socket again and never makes a new one; every state a run
reaches has `_closed` set, a socket that is closing or closed, the frames sent before the call, and
the promise `_connected` as it was. A `close()` that `config.onReconnect` makes is not: the
`onclose` handler checked `_closed` before calling it, so `_connect()` still makes a new socket,
which opens and sends a subscribe frame for the entries of `_subs`, with `_closed` set. -/
theorem close_is_final_unless_in_onReconnect :
    (∀ (s : WsEndpoint) (actions : List Action) (s' : WsEndpoint), s.close.run actions = some s' →
      s'.closed = true ∧ (s'.ws.readyState = .closing ∨ s'.ws.readyState = .closed) ∧
        s'.ws.sent = s.ws.sent ∧ s'.ws.connected = s.ws.connected) ∧
    (∀ (s : WsEndpoint) (onReconnect : List Call), s.closed = false → s.ws.readyState = .closing →
      ∃ s', s.run [.onclose (onReconnect ++ [.close]) false, .onopen] = some s' ∧ s'.closed = true ∧
        s'.ws.readyState = .open ∧ s'.ws.sent = (s'.subs.takeWhile ScriptSub.encodable).map (Frame.mk · true)) := by
  refine ⟨fun s actions s' hrun => ?_, fun s onReconnect hclosed hr => ?_⟩
  · obtain ⟨⟨hclosed, hsocket⟩, hsent, hconn⟩ := WsEndpoint.run_shut (WsEndpoint.shut_close s) hrun
    have hcl : s.close.ws.sent = s.ws.sent ∧ s.close.ws.connected = s.ws.connected := by
      simp only [WsEndpoint.close, Socket.close]
      split <;> simp
    exact ⟨hclosed, hsocket, hsent.trans hcl.1, hconn.trans hcl.2⟩
  · obtain ⟨hrun, hsent⟩ := WsEndpoint.reconnect_run hclosed hr (onReconnect ++ [.close])
    obtain ⟨hopen, -, -, hsubs⟩ := onopen_replay (s.onclose (onReconnect ++ [.close]) false)
    refine ⟨_, hrun, ?_, hopen, by rw [hsent, hsubs]⟩
    rw [onopen_closed, WsEndpoint.onclose_of_not_closed hclosed]
    exact WsEndpoint.foldl_call_close _ onReconnect

/-- An endpoint subscribed to `goodSub` on an open socket. After a `close()` of the user, a
subscription, the close event with a subscription made by `config.onReconnect`, and a subscription
`fromHex` rejects send nothing. After a `close()` made by `config.onReconnect` once the connection
is lost, a new socket opens and sends the subscription again. -/
theorem close_in_onReconnect_reconnects :
    (∃ s, WsEndpoint.new.run [.subscribe goodSub, .onopen, .close, .subscribe goodSub,
        .onclose [.subscribe goodSub] false, .subscribe badSub] = some s ∧
      s.closed = true ∧ (s.ws.readyState = .closing ∨ s.ws.readyState = .closed) ∧
        s.ws.sent = [⟨goodSub, true⟩]) ∧
    (∃ s, WsEndpoint.new.run [.subscribe goodSub, .onopen, .lost, .onclose [.close] false, .onopen] = some s ∧
      s.closed = true ∧ s.ws.readyState = .open ∧
        s.ws.sent = (s.subs.takeWhile ScriptSub.encodable).map (Frame.mk · true)) := by
  obtain ⟨hfinal, hreconnect⟩ := close_is_final_unless_in_onReconnect
  obtain ⟨hclosed, hsocket, hsent, -⟩ := hfinal ⟨[goodSub], false, ⟨.open, [⟨goodSub, true⟩], true⟩⟩
    [.subscribe goodSub, .onclose [.subscribe goodSub] false, .subscribe badSub] _ rfl
  exact ⟨⟨_, rfl, hclosed, hsocket, hsent⟩,
    hreconnect ⟨[goodSub], false, ⟨.closing, [⟨goodSub, true⟩], true⟩⟩ [] rfl rfl⟩

end Chronik
