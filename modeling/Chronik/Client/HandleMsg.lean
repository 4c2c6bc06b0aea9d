import Chronik.Client.Hex
import Chronik.Proto.Ws

/-! # Notifications of `WsEndpoint`

`ws.onmessage` calls `_handleMsg` on every frame. When `config.onMessage` is set, `_handleMsg`
takes the frame's bytes, from a `Buffer` at once or from a `Blob` by `await blob.arrayBuffer()`,
decodes a `SubscribeMsg`, and calls `config.onMessage` with its first variant; a frame that does
not decode, or sets no variant, makes it throw, and no call is made.

The model is a state machine whose steps are the arrivals of frames and the completions of Blob
reads, in any interleaving and any order of completion. It records, as the model's own
bookkeeping, the frames that arrived with their indices and the index of the frame of each call.

* `notifications_in_completion_order`: in every run the calls are those of the frames in the order
  `_handleMsg` gets their bytes, `completionOrder`: a Buffer frame on arrival, a Blob frame when its
  read completes, one call per frame with a known variant. When every read completes in the order
  the reads started and no Buffer frame arrives while a read is pending (every run of Buffer frames
  only, as in Node), that is the arrival order, and the reads still pending hold the rest.
* `blob_reads_reorder_notifications`: two Blob frames whose reads complete in the other order are
  notified in the other order. -/

namespace Chronik
open Hex

/-- The `SubscribeMsg` union of `index.ts`, by its `type`. -/
inductive Client.SubscribeMsg where
  | error (errorCode msg : String) (isUserError : Bool)
  | addedToMempool (txid : String)
  | removedFromMempool (txid : String)
  | confirmed (txid : String)
  | reorg (txid : String)
  deriving DecidableEq, Repr

/-- What `_handleMsg` throws: what `SubscribeMsg.decode` throws, or ``Unknown message: ${msg}``
on a message with no variant (a template of an object renders as `[object Object]`). -/
inductive HandleError where
  | decode (e : DecodeError)
  | unknown (message : String)
  deriving DecidableEq, Repr

/-- The `if`/`else if` chain of `_handleMsg`: the first variant set, with its txid in display
order. -/
def toClientMsg (msg : SubscribeMsg) : Except HandleError Client.SubscribeMsg :=
  match msg.error, msg.AddedToMempool, msg.RemovedFromMempool, msg.Confirmed, msg.Reorg with
  | some e, _, _, _, _ => .ok (.error e.errorCode e.msg e.isUserError)
  | none, some m, _, _, _ => .ok (.addedToMempool (toHexRev m.txid))
  | none, none, some m, _, _ => .ok (.removedFromMempool (toHexRev m.txid))
  | none, none, none, some m, _ => .ok (.confirmed (toHexRev m.txid))
  | none, none, none, none, some m => .ok (.reorg (toHexRev m.txid))
  | none, none, none, none, none => .error (.unknown "Unknown message: [object Object]")

/-- The rest of `_handleMsg` once the bytes are read: `proto.SubscribeMsg.decode(data)`, then the
chain of `toClientMsg`. -/
def handleData (data : Bytes) : Except HandleError Client.SubscribeMsg := do
  let msg ← (SubscribeMsg.decode data).mapError .decode
  toClientMsg msg

/-- The `data` of a message event: a `Buffer` (Node), or a `Blob` (browsers). -/
inductive MessageData where
  | buffer (bytes : Bytes)
  | blob (bytes : Bytes)
  deriving DecidableEq, Repr

/-- The bytes a message event carries. -/
def MessageData.bytes : MessageData → Bytes
  | .buffer bytes | .blob bytes => bytes

/-- The steps: a frame arrives, or the read of the Blob of frame `i`, the `i`-th to arrive,
completes. -/
inductive MsgEvent where
  | message (data : MessageData)
  | read (i : Nat)
  deriving DecidableEq, Repr

/-- The message handling of an endpoint: whether `config.onMessage` is set, the frames that
arrived with their indices, the Blob reads in flight, and the calls of `config.onMessage` with the
index of their frame. -/
structure Inbox where
  onMessage : Bool
  arrived : List (Nat × Bytes)
  pending : List (Nat × Bytes)
  calls : List (Nat × Client.SubscribeMsg)
  deriving DecidableEq, Repr

namespace Inbox

/-- No frame yet. -/
def new (onMessage : Bool) : Inbox := ⟨onMessage, [], [], []⟩

/-- The rest of `_handleMsg` for frame `i`: the call `config.onMessage(...)`, or none when it throws. -/
def handle (s : Inbox) (i : Nat) (bytes : Bytes) : Inbox :=
  match handleData bytes with
  | .ok msg => { s with calls := s.calls ++ [(i, msg)] }
  | .error _ => s

/-- `ws.onmessage`: `_handleMsg` returns at once when `config.onMessage` is undefined, reads a
`Buffer` at once, and starts the read of a `Blob`. -/
def onmessage (s : Inbox) (data : MessageData) : Inbox :=
  let i := s.arrived.length
  let s := { s with arrived := s.arrived ++ [(i, data.bytes)] }
  if s.onMessage then
    match data with
    | .buffer bytes => s.handle i bytes
    | .blob bytes => { s with pending := s.pending ++ [(i, bytes)] }
  else s

/-- One step; `none` for the completion of a read that is not pending. -/
def step (s : Inbox) : MsgEvent → Option Inbox
  | .message data => some (s.onmessage data)
  | .read i =>
    match s.pending.find? (·.1 == i) with
    | some (i, bytes) => some ({ s with pending := s.pending.eraseP (·.1 == i) }.handle i bytes)
    | none => none

/-- A run of steps; `none` when one of them cannot occur. -/
def run (s : Inbox) : List MsgEvent → Option Inbox
  | [] => some s
  | e :: events => (s.step e).bind (run · events)

/-- A step that keeps the order of the frames: a read completes only when all reads started
before it have, and a `Buffer` arrives only when no read is pending. -/
def keepsOrder (s : Inbox) : MsgEvent → Bool
  | .message (.buffer _) => s.pending.isEmpty
  | .message (.blob _) => true
  | .read i => s.pending.head?.map Prod.fst == some i

/-- Every step of the run keeps the order of the frames. -/
def InOrder (s : Inbox) : List MsgEvent → Prop
  | [] => True
  | e :: events => s.keepsOrder e = true ∧ ∀ s', s.step e = some s' → InOrder s' events

end Inbox

/-! ### Calls in arrival order -/

/-- The calls `config.onMessage` receives for the frames `frames`, one per frame with a known
variant, in their order. -/
def callsOf (frames : List (Nat × Bytes)) : List (Nat × Client.SubscribeMsg) :=
  frames.filterMap fun (i, bytes) => (handleData bytes).toOption.map ((i, ·))

theorem callsOf_append (a b : List (Nat × Bytes)) : callsOf (a ++ b) = callsOf a ++ callsOf b :=
  List.filterMap_append _ _ _

theorem handle_calls (s : Inbox) (i : Nat) (bytes : Bytes) :
    s.handle i bytes = { s with calls := s.calls ++ callsOf [(i, bytes)] } := by
  unfold Inbox.handle
  cases h : handleData bytes with
  | ok msg => simp [callsOf, h, Except.toOption]
  | error e => simp [callsOf, h, Except.toOption]

namespace Inbox

/-- The calls made so far, then those the pending reads will make, are the calls of the frames
that arrived, in order. -/
def Ordered (s : Inbox) : Prop := s.calls ++ callsOf s.pending = callsOf s.arrived

theorem step_onMessage {s s' : Inbox} {e : MsgEvent} (h : s.step e = some s') :
    s'.onMessage = s.onMessage := by
  cases e with
  | message data =>
    cases h
    unfold onmessage
    by_cases hs : s.onMessage <;> cases data <;> simp [hs, handle_calls]
  | read i =>
    simp only [step] at h
    split at h
    · cases h
      rw [handle_calls]
    · cases h

theorem step_ordered {s s' : Inbox} {e : MsgEvent} (hon : s.onMessage = true) (hs : s.Ordered)
    (hkeep : s.keepsOrder e = true) (h : s.step e = some s') : s'.Ordered := by
  cases e with
  | message data =>
    cases h
    cases data with
    | buffer bytes =>
      have hp : s.pending = [] := List.isEmpty_iff.mp hkeep
      rw [Ordered, hp, callsOf, List.filterMap_nil, List.append_nil] at hs
      simp only [onmessage, hon, if_true, handle_calls, Ordered, MessageData.bytes, hp, callsOf_append, hs]
      simp [callsOf]
    | blob bytes =>
      simp only [onmessage, hon, if_true, Ordered, MessageData.bytes, callsOf_append]
      rw [← List.append_assoc, hs]
  | read i =>
    cases hp : s.pending with
    | nil => simp [keepsOrder, hp] at hkeep
    | cons f rest =>
      obtain ⟨j, bytes⟩ := f
      obtain rfl : j = i := by simpa [keepsOrder, hp] using hkeep
      rw [step, hp] at h
      simp only [List.find?_cons, beq_self_eq_true, List.eraseP_cons, cond_true, Option.some.injEq] at h
      subst h
      rw [Ordered, hp] at hs
      rw [handle_calls]
      simp only [Ordered]
      rw [List.append_assoc, ← callsOf_append, List.singleton_append, hs]

theorem run_ordered {s : Inbox} (hon : s.onMessage = true) (hs : s.Ordered) :
    ∀ {events : List MsgEvent} {s' : Inbox}, s.InOrder events → s.run events = some s' → s'.Ordered
  | [], _, _, h => by cases h; exact hs
  | e :: events, s', ⟨hkeep, hrest⟩, h => by
    rw [run] at h
    obtain ⟨t, ht, hrun⟩ := Option.bind_eq_some.mp h
    exact run_ordered ((step_onMessage ht).trans hon) (step_ordered hon hs hkeep ht) (hrest t ht) hrun

theorem onmessage_buffer_pending (s : Inbox) (bytes : Bytes) :
    (s.onmessage (.buffer bytes)).pending = s.pending := by
  unfold onmessage
  by_cases h : s.onMessage <;> simp [h, handle_calls]

/-- A run of Buffer frames only keeps the order: no read is ever pending. -/
theorem inOrder_buffers {s : Inbox} (hp : s.pending = []) :
    ∀ {frames : List Bytes}, s.InOrder (frames.map (.message ∘ .buffer))
  | [] => trivial
  | bytes :: frames => by
    refine ⟨by simp [keepsOrder, hp], fun s' h => inOrder_buffers ?_⟩
    cases h
    rw [onmessage_buffer_pending, hp]

theorem run_buffers_pending {s : Inbox} (hp : s.pending = []) :
    ∀ {frames : List Bytes} {s' : Inbox}, s.run (frames.map (.message ∘ .buffer)) = some s' → s'.pending = []
  | [], _, h => by cases h; exact hp
  | bytes :: frames, s', h => by
    rw [List.map_cons, run] at h
    obtain ⟨t, ht, hrun⟩ := Option.bind_eq_some.mp h
    cases ht
    exact run_buffers_pending (by rw [onmessage_buffer_pending, hp]) hrun

end Inbox

/-! ### Calls in completion order -/

/-- The frames whose bytes an event gives `_handleMsg`, by index, when `n` frames arrived before it:
a Buffer frame on arrival, and the frame of a Blob when its read completes. -/
def MsgEvent.completes (n : Nat) : MsgEvent → List Nat
  | .message (.buffer _) => [n]
  | .message (.blob _) => []
  | .read i => [i]

/-- The number of frames an event brings. -/
def MsgEvent.arrivals : MsgEvent → Nat
  | .message _ => 1
  | .read _ => 0

/-- The frames of a run, by index, in the order `_handleMsg` gets their bytes, when `n` frames
arrived before it. -/
def completionOrder (n : Nat) : List MsgEvent → List Nat
  | [] => []
  | e :: events => e.completes n ++ completionOrder (n + e.arrivals) events

namespace Inbox

/-- Every pending read is that of a frame that arrived, under its index. -/
def Tracked (s : Inbox) : Prop := ∀ f ∈ s.pending, s.arrived[f.1]? = some f

theorem getElem?_append_of_eq_some {α : Type} {l : List α} {i : Nat} {a : α} (h : l[i]? = some a)
    (l' : List α) : (l ++ l')[i]? = some a := by
  rw [List.getElem?_append_left (List.getElem?_eq_some_iff.mp h).1, h]

/-- What one step does with the frames: the frames that arrived only grow, each pending read stays
that of a frame that arrived, and the calls grow by those of the frames whose bytes the step gets. -/
theorem step_completes {s t : Inbox} {e : MsgEvent} (hon : s.onMessage = true) (hs : s.Tracked)
    (h : s.step e = some t) :
    t.Tracked ∧ (∃ more, t.arrived = s.arrived ++ more) ∧ t.arrived.length = s.arrived.length + e.arrivals ∧
      (∀ i ∈ e.completes s.arrived.length, i < t.arrived.length) ∧
      t.calls = s.calls ++ callsOf ((e.completes s.arrived.length).filterMap (t.arrived[·]?)) := by
  cases e with
  | message data =>
    cases h
    have hkept : ∀ f ∈ s.pending, (s.arrived ++ [(s.arrived.length, data.bytes)])[f.1]? = some f :=
      fun f hf => getElem?_append_of_eq_some (hs f hf) _
    cases data with
    | buffer bytes =>
      simp only [onmessage, hon, if_true, handle_calls]
      exact ⟨hkept, ⟨_, rfl⟩, List.length_append _ _, by simp [MsgEvent.completes],
        by simp [MsgEvent.completes, MessageData.bytes]⟩
    | blob bytes =>
      simp only [onmessage, hon, if_true]
      refine ⟨fun f hf => ?_, ⟨_, rfl⟩, List.length_append _ _, by simp [MsgEvent.completes], ?_⟩
      · rcases List.mem_append.mp hf with hf | hf
        · exact hkept f hf
        · rw [List.mem_singleton.mp hf]
          exact List.getElem?_concat_length _ _
      · simp [MsgEvent.completes, callsOf]
  | read i =>
    simp only [step] at h
    split at h
    · rename_i j bytes hfind
      cases h
      have hmem := List.mem_of_find?_eq_some hfind
      obtain rfl : j = i := by simpa using List.find?_some hfind
      have harr := hs _ hmem
      rw [handle_calls]
      refine ⟨fun f hf => hs f (List.mem_of_mem_eraseP hf), ⟨[], (List.append_nil _).symm⟩, rfl,
        fun i' hi' => ?_, ?_⟩
      · rw [List.mem_singleton.mp hi']
        exact (List.getElem?_eq_some_iff.mp harr).1
      · simp [MsgEvent.completes, harr]
    · cases h

/-- Over a whole run, the calls grow by those of the frames in the order `_handleMsg` got their
bytes. -/
theorem run_completes {s : Inbox} (hon : s.onMessage = true) (hs : s.Tracked) :
    ∀ {events : List MsgEvent} {s' : Inbox}, s.run events = some s' →
      (∃ more, s'.arrived = s.arrived ++ more) ∧
      s'.calls = s.calls ++ callsOf ((completionOrder s.arrived.length events).filterMap (s'.arrived[·]?))
  | [], _, h => by cases h; simp [completionOrder, callsOf]
  | e :: events, s', h => by
    rw [run] at h
    obtain ⟨t, ht, hrun⟩ := Option.bind_eq_some.mp h
    obtain ⟨htr, ⟨more, hmore⟩, hlen, hlt, hcalls⟩ := step_completes hon hs ht
    obtain ⟨⟨more', hmore'⟩, hcalls'⟩ := run_completes ((step_onMessage ht).trans hon) htr hrun
    have hsame : (e.completes s.arrived.length).filterMap (t.arrived[·]?) =
        (e.completes s.arrived.length).filterMap (s'.arrived[·]?) :=
      List.filterMap_congr fun i hi => by rw [hmore', List.getElem?_append_left (hlt i hi)]
    refine ⟨⟨more ++ more', by rw [hmore', hmore, List.append_assoc]⟩, ?_⟩
    rw [hcalls', hcalls, hsame, hlen, completionOrder, List.filterMap_append, callsOf_append,
      List.append_assoc]

end Inbox

/-- In every run, whatever the order in which the Blob reads complete, the calls of
`config.onMessage` are those of the frames in the order `_handleMsg` gets their bytes (a Buffer
frame on arrival, a Blob frame when its read completes), one per frame with a known variant. When
every read completes in the order the reads started and no Buffer frame arrives while a read is
pending, as in every run of Buffer frames only, that is the arrival order: the calls are, at every
point, those of the frames handled so far, and the pending reads hold the calls of the rest. -/
theorem notifications_in_completion_order :
    (∀ (events : List MsgEvent) (s : Inbox), (Inbox.new true).run events = some s →
      s.calls = callsOf ((completionOrder 0 events).filterMap (s.arrived[·]?))) ∧
    (∀ (events : List MsgEvent) (s : Inbox), (Inbox.new true).InOrder events →
      (Inbox.new true).run events = some s → s.calls ++ callsOf s.pending = callsOf s.arrived) ∧
    (∀ (frames : List Bytes) (s : Inbox), (Inbox.new true).run (frames.map (.message ∘ .buffer)) = some s →
      s.pending = [] ∧ s.calls = callsOf s.arrived) := by
  refine ⟨fun events s h => (Inbox.run_completes (s := Inbox.new true) rfl (fun _ h => nomatch h) h).2,
    fun events s hin h => Inbox.run_ordered (s := Inbox.new true) rfl rfl hin h, fun frames s h => ?_⟩
  have hp := Inbox.run_buffers_pending rfl h
  have hord := Inbox.run_ordered (s := Inbox.new true) rfl rfl (Inbox.inOrder_buffers rfl) h
  rw [Inbox.Ordered, hp] at hord
  exact ⟨hp, by simpa [callsOf] using hord⟩

/-- A `Confirmed` notification for txid `01`, as the server writes it. -/
def confirmedFrame : Bytes := SubscribeMsg.encode { baseSubscribeMsg with Confirmed := some ⟨[1]⟩ }

/-- An `AddedToMempool` notification for txid `02`, as the server writes it. -/
def addedFrame : Bytes := SubscribeMsg.encode { baseSubscribeMsg with AddedToMempool := some ⟨[2]⟩ }

/-- Two Blob frames whose reads complete in the other order are notified in the other order:
`AddedToMempool`, which arrived second, reaches `config.onMessage` first. -/
theorem blob_reads_reorder_notifications :
    (Inbox.new true).run [.message (.blob confirmedFrame), .message (.blob addedFrame), .read 1, .read 0] =
      some ⟨true, [(0, confirmedFrame), (1, addedFrame)], [],
        [(1, .addedToMempool (toHexRev [2])), (0, .confirmed (toHexRev [1]))]⟩ ∧
    callsOf [(0, confirmedFrame), (1, addedFrame)] =
      [(0, .confirmed (toHexRev [1])), (1, .addedToMempool (toHexRev [2]))] :=
  ⟨rfl, rfl⟩

/-- The same two Blob frames: the calls of `config.onMessage` follow the completion order, frame 1
and then frame 0. -/
theorem blob_reads_notified_in_completion_order :
    ∃ s, (Inbox.new true).run [.message (.blob confirmedFrame), .message (.blob addedFrame), .read 1, .read 0] =
      some s ∧ s.calls = callsOf ([1, 0].filterMap (s.arrived[·]?)) :=
  ⟨_, rfl, notifications_in_completion_order.1
    [.message (.blob confirmedFrame), .message (.blob addedFrame), .read 1, .read 0] _ rfl⟩

end Chronik
