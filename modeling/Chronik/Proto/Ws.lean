import Chronik.Proto.Utxo

/-! # Websocket messages of `chronik.ts`

`Subscription`, the frame the client sends; `SubscribeMsg`, the frame the server sends, with its
variants `Error`, `MsgAddedToMempool`, `MsgRemovedFromMempool`, `MsgConfirmed` and `MsgReorg`. The
four notifications are instances of `TxidMsg` (`Proto/Utxo.lean`). -/

namespace Chronik
open Writer

/-! ### Subscription -/

/-- The `Subscription` interface. -/
structure Subscription where
  scriptType : String
  payload : Bytes
  isSubscribe : Bool
  deriving DecidableEq, Repr

/-- The initial message of `Subscription.decode`: `baseSubscription` and `payload = new Uint8Array()`. -/
def baseSubscription : Subscription := ⟨"", [], false⟩

namespace Subscription

/-- The writes of `Subscription.encode`. -/
def encode (message : Subscription) : Bytes :=
  stringField 10 message.scriptType ++ bytesField 18 message.payload ++ boolField 24 message.isSubscribe

/-- The `switch (tag >>> 3)` of `Subscription.decode`; an unknown field is skipped by its wire type
`tag & 7`. -/
def readField (tag : Nat) (message : Subscription) : Act Subscription :=
  match tag / 8 with
  | 1 => (fun scriptType => { message with scriptType }) <$> Act.string
  | 2 => (fun payload => { message with payload }) <$> Act.bytes
  | 3 => (fun isSubscribe => { message with isSubscribe }) <$> Act.bool
  | _ => (fun _ => message) <$> Act.skipType (tag % 8)

/-- The call `Subscription.decode(input)`. -/
def decode (input : Bytes) : Except DecodeError Subscription := Act.decode readField baseSubscription input

/-- The `Uint8Array` of the message is shorter than `2 ^ 32` bytes. -/
structure LengthsFit (message : Subscription) : Prop where
  payload : message.payload.length < 2 ^ 32

theorem loopReads_encode (message : Subscription) (h : message.LengthsFit) :
    LoopReads readField (encode message) baseSubscription message :=
  LoopReads.string (fun _ => rfl) (by rfl)
    |>.append (LoopReads.bytes (fun _ => rfl) (by rfl) h.payload)
    |>.append (LoopReads.bool (fun _ => rfl) (by rfl))

end Subscription

/-! ### Error -/

/-- The `Error` interface. -/
structure Error where
  errorCode : String
  msg : String
  isUserError : Bool
  deriving DecidableEq, Repr

/-- The initial message of `Error.decode`: `baseError`. -/
def baseError : Error := ⟨"", "", false⟩

namespace Error

/-- The writes of `Error.encode`. -/
def encode (message : Error) : Bytes :=
  stringField 10 message.errorCode ++ stringField 18 message.msg ++ boolField 24 message.isUserError

/-- The `switch (tag >>> 3)` of `Error.decode`. -/
def readField (tag : Nat) (message : Error) : Act Error :=
  match tag / 8 with
  | 1 => (fun errorCode => { message with errorCode }) <$> Act.string
  | 2 => (fun msg => { message with msg }) <$> Act.string
  | 3 => (fun isUserError => { message with isUserError }) <$> Act.bool
  | _ => (fun _ => message) <$> Act.skipType (tag % 8)

/-- The call `Error.decode(input)`. -/
def decode (input : Bytes) : Except DecodeError Error := Act.decode readField baseError input

/-- The call `Error.decode(reader, reader.uint32())`. -/
def decodeNested : Act Error := Act.nested readField baseError

theorem loopReads_encode (message : Error) : LoopReads readField (encode message) baseError message :=
  LoopReads.string (fun _ => rfl) (by rfl)
    |>.append (LoopReads.string (fun _ => rfl) (by rfl))
    |>.append (LoopReads.bool (fun _ => rfl) (by rfl))

end Error

/-! ### Notifications -/

/-- The `MsgAddedToMempool` interface. -/
abbrev MsgAddedToMempool := TxidMsg

/-- The `MsgRemovedFromMempool` interface. -/
abbrev MsgRemovedFromMempool := TxidMsg

/-- The `MsgConfirmed` interface. -/
abbrev MsgConfirmed := TxidMsg

/-- The `MsgReorg` interface. -/
abbrev MsgReorg := TxidMsg

/-- The writes of `MsgAddedToMempool.encode`. -/
abbrev MsgAddedToMempool.encode : MsgAddedToMempool → Bytes := TxidMsg.encode

/-- The call `MsgAddedToMempool.decode(input)`. -/
def MsgAddedToMempool.decode : Bytes → Except DecodeError MsgAddedToMempool := TxidMsg.decode

/-- The writes of `MsgRemovedFromMempool.encode`. -/
abbrev MsgRemovedFromMempool.encode : MsgRemovedFromMempool → Bytes := TxidMsg.encode

/-- The call `MsgRemovedFromMempool.decode(input)`. -/
def MsgRemovedFromMempool.decode : Bytes → Except DecodeError MsgRemovedFromMempool := TxidMsg.decode

/-- The writes of `MsgConfirmed.encode`. -/
abbrev MsgConfirmed.encode : MsgConfirmed → Bytes := TxidMsg.encode

/-- The call `MsgConfirmed.decode(input)`. -/
def MsgConfirmed.decode : Bytes → Except DecodeError MsgConfirmed := TxidMsg.decode

/-- The writes of `MsgReorg.encode`. -/
abbrev MsgReorg.encode : MsgReorg → Bytes := TxidMsg.encode

/-- The call `MsgReorg.decode(input)`. -/
def MsgReorg.decode : Bytes → Except DecodeError MsgReorg := TxidMsg.decode

/-! ### SubscribeMsg -/

/-- The `SubscribeMsg` interface: at most one variant is set by the server. -/
structure SubscribeMsg where
  error : Option Error
  AddedToMempool : Option MsgAddedToMempool
  RemovedFromMempool : Option MsgRemovedFromMempool
  Confirmed : Option MsgConfirmed
  Reorg : Option MsgReorg
  deriving DecidableEq, Repr

/-- The initial message of `SubscribeMsg.decode`: `baseSubscribeMsg`, every variant `undefined`. -/
def baseSubscribeMsg : SubscribeMsg := ⟨none, none, none, none, none⟩

namespace SubscribeMsg

/-- The writes of `SubscribeMsg.encode`. -/
def encode (message : SubscribeMsg) : Bytes :=
  messageField 10 Error.encode message.error ++
    messageField 18 MsgAddedToMempool.encode message.AddedToMempool ++
    messageField 26 MsgRemovedFromMempool.encode message.RemovedFromMempool ++
    messageField 34 MsgConfirmed.encode message.Confirmed ++ messageField 42 MsgReorg.encode message.Reorg

/-- The `switch (tag >>> 3)` of `SubscribeMsg.decode`. -/
def readField (tag : Nat) (message : SubscribeMsg) : Act SubscribeMsg :=
  match tag / 8 with
  | 1 => (fun error => { message with error := some error }) <$> Error.decodeNested
  | 2 => (fun v => { message with AddedToMempool := some v }) <$> TxidMsg.decodeNested
  | 3 => (fun v => { message with RemovedFromMempool := some v }) <$> TxidMsg.decodeNested
  | 4 => (fun v => { message with Confirmed := some v }) <$> TxidMsg.decodeNested
  | 5 => (fun v => { message with Reorg := some v }) <$> TxidMsg.decodeNested
  | _ => (fun _ => message) <$> Act.skipType (tag % 8)

/-- The call `SubscribeMsg.decode(input)`. -/
def decode (input : Bytes) : Except DecodeError SubscribeMsg := Act.decode readField baseSubscribeMsg input

/-- The `Uint8Array`s of the sub-messages are shorter than `2 ^ 32` bytes. -/
structure LengthsFit (message : SubscribeMsg) : Prop where
  AddedToMempool : ∀ v ∈ message.AddedToMempool, v.LengthsFit
  RemovedFromMempool : ∀ v ∈ message.RemovedFromMempool, v.LengthsFit
  Confirmed : ∀ v ∈ message.Confirmed, v.LengthsFit
  Reorg : ∀ v ∈ message.Reorg, v.LengthsFit

theorem loopReads_encode (message : SubscribeMsg) (h : message.LengthsFit) :
    LoopReads readField (encode message) baseSubscribeMsg message :=
  LoopReads.optional (fun (s : SubscribeMsg) error => { s with error }) (fun _ => rfl) (by rfl)
      (fun v _ => Error.loopReads_encode v)
    |>.append (LoopReads.optional (fun s v => { s with AddedToMempool := v }) (fun _ => rfl) (by rfl)
      fun v hv => TxidMsg.loopReads_encode v (h.AddedToMempool v hv))
    |>.append (LoopReads.optional (fun s v => { s with RemovedFromMempool := v }) (fun _ => rfl) (by rfl)
      fun v hv => TxidMsg.loopReads_encode v (h.RemovedFromMempool v hv))
    |>.append (LoopReads.optional (fun s v => { s with Confirmed := v }) (fun _ => rfl) (by rfl)
      fun v hv => TxidMsg.loopReads_encode v (h.Confirmed v hv))
    |>.append (LoopReads.optional (fun s v => { s with Reorg := v }) (fun _ => rfl) (by rfl)
      fun v hv => TxidMsg.loopReads_encode v (h.Reorg v hv))

end SubscribeMsg

end Chronik
