import Chronik.Proto.Tx

/-! # Utxo and broadcast messages of `chronik.ts`

`Utxo`, `ScriptUtxos`, `Utxos`, `UtxoState`, `ValidateUtxoRequest`, `ValidateUtxoResponse`,
`BroadcastTxRequest` and `BroadcastTxResponse`, in the shape of `Proto/Slp.lean`.

`BroadcastTxResponse` and the four notifications `MsgAddedToMempool`, `MsgRemovedFromMempool`,
`MsgConfirmed` and `MsgReorg` are one message shape, `bytes txid = 1`, with the same generated
`encode` and `decode`: `TxidMsg` holds it once, and each of the five is its instance. -/

namespace Chronik
open Writer

/-! ### Utxo -/

/-- The `Utxo` interface of the client: the server's `Utxo` has other fields (`Server/Schema.lean`). -/
structure Utxo where
  outpoint : Option OutPoint
  blockHeight : Int32
  isCoinbase : Bool
  value : Long
  slpMeta : Option SlpMeta
  slpToken : Option SlpToken
  network : Int32
  deriving DecidableEq, Repr

/-- The initial message of `Utxo.decode`: `baseUtxo`. -/
def baseUtxo : Utxo := ⟨none, 0, false, 0, none, none, 0⟩

namespace Utxo

/-- The writes of `Utxo.encode`. -/
def encode (message : Utxo) : Bytes :=
  messageField 10 OutPoint.encode message.outpoint ++ int32Field 16 message.blockHeight ++
    boolField 24 message.isCoinbase ++ longField 40 message.value ++
    messageField 50 SlpMeta.encode message.slpMeta ++ messageField 58 SlpToken.encode message.slpToken ++
    int32Field 72 message.network

/-- The `switch (tag >>> 3)` of `Utxo.decode`; an unknown field is skipped by its wire type
`tag & 7`. -/
def readField (tag : Nat) (message : Utxo) : Act Utxo :=
  match tag / 8 with
  | 1 => (fun outpoint => { message with outpoint := some outpoint }) <$> OutPoint.decodeNested
  | 2 => (fun blockHeight => { message with blockHeight }) <$> Act.int32
  | 3 => (fun isCoinbase => { message with isCoinbase }) <$> Act.bool
  | 5 => (fun value => { message with value }) <$> Act.int64
  | 6 => (fun slpMeta => { message with slpMeta := some slpMeta }) <$> SlpMeta.decodeNested
  | 7 => (fun slpToken => { message with slpToken := some slpToken }) <$> SlpToken.decodeNested
  | 9 => (fun network => { message with network }) <$> Act.int32
  | _ => (fun _ => message) <$> Act.skipType (tag % 8)

/-- The call `Utxo.decode(input)`. -/
def decode (input : Bytes) : Except DecodeError Utxo := Act.decode readField baseUtxo input

/-- The call `Utxo.decode(reader, reader.uint32())`. -/
def decodeNested : Act Utxo := Act.nested readField baseUtxo

/-- The `Uint8Array`s of the sub-messages are shorter than `2 ^ 32` bytes. -/
structure LengthsFit (message : Utxo) : Prop where
  outpoint : ∀ v ∈ message.outpoint, v.LengthsFit
  slpMeta : ∀ v ∈ message.slpMeta, v.LengthsFit

theorem loopReads_encode (message : Utxo) (h : message.LengthsFit) :
    LoopReads readField (encode message) baseUtxo message :=
  LoopReads.optional (fun s outpoint => { s with outpoint }) (fun _ => rfl) (by rfl)
      (fun v hv => OutPoint.loopReads_encode v (h.outpoint v hv))
    |>.append (LoopReads.int32 (fun _ => rfl) (by rfl))
    |>.append (LoopReads.bool (fun _ => rfl) (by rfl))
    |>.append (LoopReads.long (fun _ => rfl) (by rfl))
    |>.append (LoopReads.optional (fun s slpMeta => { s with slpMeta }) (fun _ => rfl) (by rfl)
      fun v hv => SlpMeta.loopReads_encode v (h.slpMeta v hv))
    |>.append (LoopReads.optional (fun s slpToken => { s with slpToken }) (fun _ => rfl) (by rfl)
      fun v _ => SlpToken.loopReads_encode v)
    |>.append (LoopReads.int32 (fun _ => rfl) (by rfl))

end Utxo

/-! ### ScriptUtxos -/

/-- The `ScriptUtxos` interface. -/
structure ScriptUtxos where
  outputScript : Bytes
  utxos : List Utxo
  deriving DecidableEq, Repr

/-- The initial message of `ScriptUtxos.decode`: `baseScriptUtxos`, `utxos = []` and
`outputScript = new Uint8Array()`. -/
def baseScriptUtxos : ScriptUtxos := ⟨[], []⟩

namespace ScriptUtxos

/-- The writes of `ScriptUtxos.encode`. -/
def encode (message : ScriptUtxos) : Bytes :=
  bytesField 10 message.outputScript ++ repeatedField 18 Utxo.encode message.utxos

/-- The `switch (tag >>> 3)` of `ScriptUtxos.decode`. -/
def readField (tag : Nat) (message : ScriptUtxos) : Act ScriptUtxos :=
  match tag / 8 with
  | 1 => (fun outputScript => { message with outputScript }) <$> Act.bytes
  | 2 => (fun utxo => { message with utxos := message.utxos ++ [utxo] }) <$> Utxo.decodeNested
  | _ => (fun _ => message) <$> Act.skipType (tag % 8)

/-- The call `ScriptUtxos.decode(input)`. -/
def decode (input : Bytes) : Except DecodeError ScriptUtxos := Act.decode readField baseScriptUtxos input

/-- The call `ScriptUtxos.decode(reader, reader.uint32())`. -/
def decodeNested : Act ScriptUtxos := Act.nested readField baseScriptUtxos

/-- The `Uint8Array`s of the message and its sub-messages are shorter than `2 ^ 32` bytes. -/
structure LengthsFit (message : ScriptUtxos) : Prop where
  outputScript : message.outputScript.length < 2 ^ 32
  utxos : ∀ v ∈ message.utxos, v.LengthsFit

theorem loopReads_encode (message : ScriptUtxos) (h : message.LengthsFit) :
    LoopReads readField (encode message) baseScriptUtxos message :=
  LoopReads.bytes (fun _ => rfl) (by rfl) h.outputScript
    |>.append (LoopReads.repeated (fun s utxos => { s with utxos }) (fun _ _ => rfl) (by rfl)
      fun v hv => Utxo.loopReads_encode v (h.utxos v hv))

end ScriptUtxos

/-! ### Utxos -/

/-- The `Utxos` interface. -/
structure Utxos where
  scriptUtxos : List ScriptUtxos
  deriving DecidableEq, Repr

/-- The initial message of `Utxos.decode`: `baseUtxos` and `scriptUtxos = []`. -/
def baseUtxos : Utxos := ⟨[]⟩

namespace Utxos

/-- The writes of `Utxos.encode`. -/
def encode (message : Utxos) : Bytes := repeatedField 10 ScriptUtxos.encode message.scriptUtxos

/-- The `switch (tag >>> 3)` of `Utxos.decode`. -/
def readField (tag : Nat) (message : Utxos) : Act Utxos :=
  match tag / 8 with
  | 1 => (fun v => { message with scriptUtxos := message.scriptUtxos ++ [v] }) <$> ScriptUtxos.decodeNested
  | _ => (fun _ => message) <$> Act.skipType (tag % 8)

/-- The call `Utxos.decode(input)`. -/
def decode (input : Bytes) : Except DecodeError Utxos := Act.decode readField baseUtxos input

/-- The `Uint8Array`s of the sub-messages are shorter than `2 ^ 32` bytes. -/
structure LengthsFit (message : Utxos) : Prop where
  scriptUtxos : ∀ v ∈ message.scriptUtxos, v.LengthsFit

theorem loopReads_encode (message : Utxos) (h : message.LengthsFit) :
    LoopReads readField (encode message) baseUtxos message :=
  LoopReads.repeated (fun (s : Utxos) scriptUtxos => { s with scriptUtxos }) (fun _ _ => rfl) (by rfl)
    fun v hv => ScriptUtxos.loopReads_encode v (h.scriptUtxos v hv)

end Utxos

/-! ### UtxoState -/

/-- The `UtxoState` interface; `state` is the enum `UtxoStateVariant`. -/
structure UtxoState where
  height : Int32
  isConfirmed : Bool
  state : Int32
  deriving DecidableEq, Repr

/-- The initial message of `UtxoState.decode`: `baseUtxoState`. -/
def baseUtxoState : UtxoState := ⟨0, false, 0⟩

namespace UtxoState

/-- The writes of `UtxoState.encode`. -/
def encode (message : UtxoState) : Bytes :=
  int32Field 8 message.height ++ boolField 16 message.isConfirmed ++ int32Field 24 message.state

/-- The `switch (tag >>> 3)` of `UtxoState.decode`. -/
def readField (tag : Nat) (message : UtxoState) : Act UtxoState :=
  match tag / 8 with
  | 1 => (fun height => { message with height }) <$> Act.int32
  | 2 => (fun isConfirmed => { message with isConfirmed }) <$> Act.bool
  | 3 => (fun state => { message with state }) <$> Act.int32
  | _ => (fun _ => message) <$> Act.skipType (tag % 8)

/-- The call `UtxoState.decode(input)`. -/
def decode (input : Bytes) : Except DecodeError UtxoState := Act.decode readField baseUtxoState input

/-- The call `UtxoState.decode(reader, reader.uint32())`. -/
def decodeNested : Act UtxoState := Act.nested readField baseUtxoState

theorem loopReads_encode (message : UtxoState) :
    LoopReads readField (encode message) baseUtxoState message :=
  LoopReads.int32 (fun _ => rfl) (by rfl)
    |>.append (LoopReads.bool (fun _ => rfl) (by rfl))
    |>.append (LoopReads.int32 (fun _ => rfl) (by rfl))

end UtxoState

/-! ### ValidateUtxoRequest and ValidateUtxoResponse -/

/-- The `ValidateUtxoRequest` interface. -/
structure ValidateUtxoRequest where
  outpoints : List OutPoint
  deriving DecidableEq, Repr

/-- The initial message of `ValidateUtxoRequest.decode`: `outpoints = []`. -/
def baseValidateUtxoRequest : ValidateUtxoRequest := ⟨[]⟩

namespace ValidateUtxoRequest

/-- The writes of `ValidateUtxoRequest.encode`. -/
def encode (message : ValidateUtxoRequest) : Bytes := repeatedField 10 OutPoint.encode message.outpoints

/-- The `switch (tag >>> 3)` of `ValidateUtxoRequest.decode`. -/
def readField (tag : Nat) (message : ValidateUtxoRequest) : Act ValidateUtxoRequest :=
  match tag / 8 with
  | 1 => (fun v => { message with outpoints := message.outpoints ++ [v] }) <$> OutPoint.decodeNested
  | _ => (fun _ => message) <$> Act.skipType (tag % 8)

/-- The call `ValidateUtxoRequest.decode(input)`. -/
def decode (input : Bytes) : Except DecodeError ValidateUtxoRequest :=
  Act.decode readField baseValidateUtxoRequest input

/-- The `Uint8Array`s of the sub-messages are shorter than `2 ^ 32` bytes. -/
structure LengthsFit (message : ValidateUtxoRequest) : Prop where
  outpoints : ∀ v ∈ message.outpoints, v.LengthsFit

theorem loopReads_encode (message : ValidateUtxoRequest) (h : message.LengthsFit) :
    LoopReads readField (encode message) baseValidateUtxoRequest message :=
  LoopReads.repeated (fun (s : ValidateUtxoRequest) outpoints => { s with outpoints }) (fun _ _ => rfl) (by rfl)
    fun v hv => OutPoint.loopReads_encode v (h.outpoints v hv)

end ValidateUtxoRequest

/-- The `ValidateUtxoResponse` interface. -/
structure ValidateUtxoResponse where
  utxoStates : List UtxoState
  deriving DecidableEq, Repr

/-- The initial message of `ValidateUtxoResponse.decode`: `utxoStates = []`. -/
def baseValidateUtxoResponse : ValidateUtxoResponse := ⟨[]⟩

namespace ValidateUtxoResponse

/-- The writes of `ValidateUtxoResponse.encode`. -/
def encode (message : ValidateUtxoResponse) : Bytes := repeatedField 10 UtxoState.encode message.utxoStates

/-- The `switch (tag >>> 3)` of `ValidateUtxoResponse.decode`. -/
def readField (tag : Nat) (message : ValidateUtxoResponse) : Act ValidateUtxoResponse :=
  match tag / 8 with
  | 1 => (fun v => { message with utxoStates := message.utxoStates ++ [v] }) <$> UtxoState.decodeNested
  | _ => (fun _ => message) <$> Act.skipType (tag % 8)

/-- The call `ValidateUtxoResponse.decode(input)`. -/
def decode (input : Bytes) : Except DecodeError ValidateUtxoResponse :=
  Act.decode readField baseValidateUtxoResponse input

theorem loopReads_encode (message : ValidateUtxoResponse) :
    LoopReads readField (encode message) baseValidateUtxoResponse message :=
  LoopReads.repeated (fun (s : ValidateUtxoResponse) utxoStates => { s with utxoStates })
    (fun _ _ => rfl) (by rfl) fun v _ => UtxoState.loopReads_encode v

end ValidateUtxoResponse

/-! ### BroadcastTxRequest -/

/-- The `BroadcastTxRequest` interface. -/
structure BroadcastTxRequest where
  rawTx : Bytes
  skipSlpCheck : Bool
  deriving DecidableEq, Repr

/-- The initial message of `BroadcastTxRequest.decode`: `baseBroadcastTxRequest` and
`rawTx = new Uint8Array()`. -/
def baseBroadcastTxRequest : BroadcastTxRequest := ⟨[], false⟩

namespace BroadcastTxRequest

/-- The writes of `BroadcastTxRequest.encode`. -/
def encode (message : BroadcastTxRequest) : Bytes :=
  bytesField 10 message.rawTx ++ boolField 16 message.skipSlpCheck

/-- The `switch (tag >>> 3)` of `BroadcastTxRequest.decode`. -/
def readField (tag : Nat) (message : BroadcastTxRequest) : Act BroadcastTxRequest :=
  match tag / 8 with
  | 1 => (fun rawTx => { message with rawTx }) <$> Act.bytes
  | 2 => (fun skipSlpCheck => { message with skipSlpCheck }) <$> Act.bool
  | _ => (fun _ => message) <$> Act.skipType (tag % 8)

/-- The call `BroadcastTxRequest.decode(input)`. -/
def decode (input : Bytes) : Except DecodeError BroadcastTxRequest :=
  Act.decode readField baseBroadcastTxRequest input

/-- The `Uint8Array` of the message is shorter than `2 ^ 32` bytes. -/
structure LengthsFit (message : BroadcastTxRequest) : Prop where
  rawTx : message.rawTx.length < 2 ^ 32

theorem loopReads_encode (message : BroadcastTxRequest) (h : message.LengthsFit) :
    LoopReads readField (encode message) baseBroadcastTxRequest message :=
  LoopReads.bytes (fun _ => rfl) (by rfl) h.rawTx
    |>.append (LoopReads.bool (fun _ => rfl) (by rfl))

end BroadcastTxRequest

/-! ### Messages of one `txid` -/

/-- The message `{ txid: Uint8Array }` of `BroadcastTxResponse`, `MsgAddedToMempool`,
`MsgRemovedFromMempool`, `MsgConfirmed` and `MsgReorg`. -/
structure TxidMsg where
  txid : Bytes
  deriving DecidableEq, Repr

/-- The initial message of their `decode`: `txid = new Uint8Array()`. -/
def baseTxidMsg : TxidMsg := ⟨[]⟩

namespace TxidMsg

/-- The writes of their `encode`. -/
def encode (message : TxidMsg) : Bytes := bytesField 10 message.txid

/-- The `switch (tag >>> 3)` of their `decode`. -/
def readField (tag : Nat) (message : TxidMsg) : Act TxidMsg :=
  match tag / 8 with
  | 1 => (fun txid => { message with txid }) <$> Act.bytes
  | _ => (fun _ => message) <$> Act.skipType (tag % 8)

/-- The call `decode(input)`. -/
def decode (input : Bytes) : Except DecodeError TxidMsg := Act.decode readField baseTxidMsg input

/-- The call `decode(reader, reader.uint32())`. -/
def decodeNested : Act TxidMsg := Act.nested readField baseTxidMsg

/-- The `Uint8Array` of the message is shorter than `2 ^ 32` bytes. -/
structure LengthsFit (message : TxidMsg) : Prop where
  txid : message.txid.length < 2 ^ 32

theorem loopReads_encode (message : TxidMsg) (h : message.LengthsFit) :
    LoopReads readField (encode message) baseTxidMsg message :=
  @LoopReads.bytes _ readField 10 _ _ _ (fun _ => rfl) (by rfl) h.txid

end TxidMsg

/-- The `BroadcastTxResponse` interface. -/
abbrev BroadcastTxResponse := TxidMsg

/-- The writes of `BroadcastTxResponse.encode`. -/
abbrev BroadcastTxResponse.encode : BroadcastTxResponse → Bytes := TxidMsg.encode

/-- The call `BroadcastTxResponse.decode(input)`. -/
def BroadcastTxResponse.decode : Bytes → Except DecodeError BroadcastTxResponse := TxidMsg.decode

end Chronik
