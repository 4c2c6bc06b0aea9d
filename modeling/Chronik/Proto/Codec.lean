import Chronik.Proto.Block
import Chronik.Proto.Ws

/-! # The codec of `chronik.ts` as a whole

`MsgType` names the twenty-nine messages `chronik.ts` exports, and gives each its interface, its
`encode`, its `decode`, and its decode loop (`readField` from the initial message). Over all of
them:

* `decode_encode_roundtrip`: decoding the encoding of a message returns it, when the encoding and
  every `Uint8Array` of the message are shorter than `2 ^ 32` bytes. A longer array loses its
  length to `value.length >>> 0`: `decode_encode_loses_4gib_txid` decodes a transaction whose
  `txid` has `2 ^ 32` bytes to one with an empty `txid`.
* `decode_loop_progress`: every iteration of every decode loop throws or moves the reader forward,
  and the loop reaches its outcome within `end - pos` iterations, whatever the end (a nested
  `decode` may be given a length past the buffer). -/

namespace Chronik

/-- The messages of `chronik.ts`. -/
inductive MsgType where
  | tx | txInput | txOutput | outPoint | blockInfo | blockMetadata | block | blocks | utxo
  | scriptUtxos | utxos | txHistoryPage | slpTxData | slpMeta | slpToken | slpBurn | slpGenesisInfo
  | validateUtxoRequest | validateUtxoResponse | utxoState | broadcastTxRequest | broadcastTxResponse
  | subscription | subscribeMsg | msgAddedToMempool | msgRemovedFromMempool | msgConfirmed | msgReorg
  | error
  deriving DecidableEq, Repr

namespace MsgType

/-- The interface of each message. -/
def Message : MsgType → Type
  | tx => Tx | txInput => TxInput | txOutput => TxOutput | outPoint => OutPoint
  | blockInfo => BlockInfo | blockMetadata => BlockMetadata | block => Block | blocks => Blocks
  | utxo => Utxo | scriptUtxos => ScriptUtxos | utxos => Utxos | txHistoryPage => TxHistoryPage
  | slpTxData => SlpTxData | slpMeta => SlpMeta | slpToken => SlpToken | slpBurn => SlpBurn
  | slpGenesisInfo => SlpGenesisInfo | validateUtxoRequest => ValidateUtxoRequest
  | validateUtxoResponse => ValidateUtxoResponse | utxoState => UtxoState
  | broadcastTxRequest => BroadcastTxRequest | broadcastTxResponse => BroadcastTxResponse
  | subscription => Subscription | subscribeMsg => SubscribeMsg
  | msgAddedToMempool => MsgAddedToMempool | msgRemovedFromMempool => MsgRemovedFromMempool
  | msgConfirmed => MsgConfirmed | msgReorg => MsgReorg | error => Error

/-- The `encode` of each message, up to `finish()`. -/
def encode : (t : MsgType) → t.Message → Bytes
  | tx => Tx.encode | txInput => TxInput.encode | txOutput => TxOutput.encode
  | outPoint => OutPoint.encode | blockInfo => BlockInfo.encode
  | blockMetadata => BlockMetadata.encode | block => Block.encode | blocks => Blocks.encode
  | utxo => Utxo.encode | scriptUtxos => ScriptUtxos.encode | utxos => Utxos.encode
  | txHistoryPage => TxHistoryPage.encode | slpTxData => SlpTxData.encode
  | slpMeta => SlpMeta.encode | slpToken => SlpToken.encode | slpBurn => SlpBurn.encode
  | slpGenesisInfo => SlpGenesisInfo.encode | validateUtxoRequest => ValidateUtxoRequest.encode
  | validateUtxoResponse => ValidateUtxoResponse.encode | utxoState => UtxoState.encode
  | broadcastTxRequest => BroadcastTxRequest.encode
  | broadcastTxResponse => BroadcastTxResponse.encode | subscription => Subscription.encode
  | subscribeMsg => SubscribeMsg.encode | msgAddedToMempool => MsgAddedToMempool.encode
  | msgRemovedFromMempool => MsgRemovedFromMempool.encode | msgConfirmed => MsgConfirmed.encode
  | msgReorg => MsgReorg.encode | error => Error.encode

/-- The `decode` of each message, on a new reader over the input. -/
def decode : (t : MsgType) → Bytes → Except DecodeError t.Message
  | tx => Tx.decode | txInput => TxInput.decode | txOutput => TxOutput.decode
  | outPoint => OutPoint.decode | blockInfo => BlockInfo.decode
  | blockMetadata => BlockMetadata.decode | block => Block.decode | blocks => Blocks.decode
  | utxo => Utxo.decode | scriptUtxos => ScriptUtxos.decode | utxos => Utxos.decode
  | txHistoryPage => TxHistoryPage.decode | slpTxData => SlpTxData.decode
  | slpMeta => SlpMeta.decode | slpToken => SlpToken.decode | slpBurn => SlpBurn.decode
  | slpGenesisInfo => SlpGenesisInfo.decode | validateUtxoRequest => ValidateUtxoRequest.decode
  | validateUtxoResponse => ValidateUtxoResponse.decode | utxoState => UtxoState.decode
  | broadcastTxRequest => BroadcastTxRequest.decode
  | broadcastTxResponse => BroadcastTxResponse.decode | subscription => Subscription.decode
  | subscribeMsg => SubscribeMsg.decode | msgAddedToMempool => MsgAddedToMempool.decode
  | msgRemovedFromMempool => MsgRemovedFromMempool.decode | msgConfirmed => MsgConfirmed.decode
  | msgReorg => MsgReorg.decode | error => Error.decode

/-- The `switch` of each decode loop. -/
def readField : (t : MsgType) → Nat → t.Message → Act t.Message
  | tx => Tx.readField | txInput => TxInput.readField | txOutput => TxOutput.readField
  | outPoint => OutPoint.readField | blockInfo => BlockInfo.readField
  | blockMetadata => BlockMetadata.readField | block => Block.readField
  | blocks => Blocks.readField | utxo => Utxo.readField | scriptUtxos => ScriptUtxos.readField
  | utxos => Utxos.readField | txHistoryPage => TxHistoryPage.readField
  | slpTxData => SlpTxData.readField | slpMeta => SlpMeta.readField
  | slpToken => SlpToken.readField | slpBurn => SlpBurn.readField
  | slpGenesisInfo => SlpGenesisInfo.readField
  | validateUtxoRequest => ValidateUtxoRequest.readField
  | validateUtxoResponse => ValidateUtxoResponse.readField | utxoState => UtxoState.readField
  | broadcastTxRequest => BroadcastTxRequest.readField
  | broadcastTxResponse => TxidMsg.readField | subscription => Subscription.readField
  | subscribeMsg => SubscribeMsg.readField | msgAddedToMempool => TxidMsg.readField
  | msgRemovedFromMempool => TxidMsg.readField | msgConfirmed => TxidMsg.readField
  | msgReorg => TxidMsg.readField | error => Error.readField

/-- The initial message of each decode loop. -/
def base : (t : MsgType) → t.Message
  | tx => baseTx | txInput => baseTxInput | txOutput => baseTxOutput | outPoint => baseOutPoint
  | blockInfo => baseBlockInfo | blockMetadata => baseBlockMetadata | block => baseBlock
  | blocks => baseBlocks | utxo => baseUtxo | scriptUtxos => baseScriptUtxos | utxos => baseUtxos
  | txHistoryPage => baseTxHistoryPage | slpTxData => baseSlpTxData | slpMeta => baseSlpMeta
  | slpToken => baseSlpToken | slpBurn => baseSlpBurn | slpGenesisInfo => baseSlpGenesisInfo
  | validateUtxoRequest => baseValidateUtxoRequest | validateUtxoResponse => baseValidateUtxoResponse
  | utxoState => baseUtxoState | broadcastTxRequest => baseBroadcastTxRequest
  | broadcastTxResponse => baseTxidMsg | subscription => baseSubscription
  | subscribeMsg => baseSubscribeMsg | msgAddedToMempool => baseTxidMsg
  | msgRemovedFromMempool => baseTxidMsg | msgConfirmed => baseTxidMsg | msgReorg => baseTxidMsg
  | error => baseError

/-- Each `decode` is the decode loop over the whole input from the initial message. -/
theorem decode_eq (t : MsgType) (input : Bytes) : t.decode input = Act.decode t.readField t.base input := by
  cases t <;> rfl

/-- The `Uint8Array`s of a message, at every depth, are shorter than `2 ^ 32` bytes; a message
without one meets this by itself. -/
def LengthsFit : (t : MsgType) → t.Message → Prop
  | tx => Tx.LengthsFit | txInput => TxInput.LengthsFit | txOutput => TxOutput.LengthsFit
  | outPoint => OutPoint.LengthsFit | blockInfo => BlockInfo.LengthsFit
  | blockMetadata => BlockMetadata.LengthsFit | block => Block.LengthsFit
  | blocks => Blocks.LengthsFit | utxo => Utxo.LengthsFit | scriptUtxos => ScriptUtxos.LengthsFit
  | utxos => Utxos.LengthsFit | txHistoryPage => TxHistoryPage.LengthsFit
  | slpTxData => SlpTxData.LengthsFit | slpMeta => SlpMeta.LengthsFit
  | slpToken => fun _ => True | slpBurn => SlpBurn.LengthsFit
  | slpGenesisInfo => SlpGenesisInfo.LengthsFit
  | validateUtxoRequest => ValidateUtxoRequest.LengthsFit
  | validateUtxoResponse => fun _ => True | utxoState => fun _ => True
  | broadcastTxRequest => BroadcastTxRequest.LengthsFit
  | broadcastTxResponse => TxidMsg.LengthsFit | subscription => Subscription.LengthsFit
  | subscribeMsg => SubscribeMsg.LengthsFit | msgAddedToMempool => TxidMsg.LengthsFit
  | msgRemovedFromMempool => TxidMsg.LengthsFit | msgConfirmed => TxidMsg.LengthsFit
  | msgReorg => TxidMsg.LengthsFit | error => fun _ => True

end MsgType

/-! ### Round trip -/

/-- The decode loop of each message reads its encoding from the initial message to the message. -/
theorem MsgType.loopReads_encode (t : MsgType) (m : t.Message) (hfit : t.LengthsFit m) :
    LoopReads t.readField (t.encode m) t.base m := by
  cases t
  case tx => exact Tx.loopReads_encode m hfit
  case txInput => exact TxInput.loopReads_encode m hfit
  case txOutput => exact TxOutput.loopReads_encode m hfit
  case outPoint => exact OutPoint.loopReads_encode m hfit
  case blockInfo => exact BlockInfo.loopReads_encode m hfit
  case blockMetadata => exact BlockMetadata.loopReads_encode m hfit
  case block => exact Block.loopReads_encode m hfit
  case blocks => exact Blocks.loopReads_encode m hfit
  case utxo => exact Utxo.loopReads_encode m hfit
  case scriptUtxos => exact ScriptUtxos.loopReads_encode m hfit
  case utxos => exact Utxos.loopReads_encode m hfit
  case txHistoryPage => exact TxHistoryPage.loopReads_encode m hfit
  case slpTxData => exact SlpTxData.loopReads_encode m hfit
  case slpMeta => exact SlpMeta.loopReads_encode m hfit
  case slpToken => exact SlpToken.loopReads_encode m
  case slpBurn => exact SlpBurn.loopReads_encode m hfit
  case slpGenesisInfo => exact SlpGenesisInfo.loopReads_encode m hfit
  case validateUtxoRequest => exact ValidateUtxoRequest.loopReads_encode m hfit
  case validateUtxoResponse => exact ValidateUtxoResponse.loopReads_encode m
  case utxoState => exact UtxoState.loopReads_encode m
  case broadcastTxRequest => exact BroadcastTxRequest.loopReads_encode m hfit
  case broadcastTxResponse => exact TxidMsg.loopReads_encode m hfit
  case subscription => exact Subscription.loopReads_encode m hfit
  case subscribeMsg => exact SubscribeMsg.loopReads_encode m hfit
  case msgAddedToMempool => exact TxidMsg.loopReads_encode m hfit
  case msgRemovedFromMempool => exact TxidMsg.loopReads_encode m hfit
  case msgConfirmed => exact TxidMsg.loopReads_encode m hfit
  case msgReorg => exact TxidMsg.loopReads_encode m hfit
  case error => exact Error.loopReads_encode m

/-- Every message whose encoding and `Uint8Array`s are shorter than `2 ^ 32` bytes decodes from its
encoding to itself: every field is restored, absent sub-messages stay absent, present ones are
restored recursively, and repeated fields keep their elements in order. -/
theorem decode_encode_roundtrip (t : MsgType) (m : t.Message) (hfit : t.LengthsFit m)
    (hlen : (t.encode m).length < 2 ^ 32) : t.decode (t.encode m) = .ok m := by
  rw [MsgType.decode_eq]
  exact (t.loopReads_encode m hfit).decode hlen

/-- The outpoint `(07, 3)` decodes from its encoding. -/
theorem decode_encode_outPoint :
    MsgType.outPoint.decode (MsgType.outPoint.encode (⟨[7], 3⟩ : OutPoint)) = .ok (⟨[7], 3⟩ : OutPoint) :=
  decode_encode_roundtrip .outPoint ⟨[7], 3⟩ (⟨by decide⟩ : OutPoint.LengthsFit _) (by decide)

/-- A transaction whose `txid` has `2 ^ 32` bytes. -/
def hugeTxidTx : Tx := { baseTx with txid := List.replicate (2 ^ 32) 0 }

/-- A `txid` of `2 ^ 32` bytes is written as the single byte `0`: `value.length >>> 0` is `0`. -/
theorem encode_txid_of_length {v : Bytes} (hv : v.length = 2 ^ 32) :
    Tx.encode { baseTx with txid := v } = [10, 0] := by
  have hb : Writer.bytes v = [0] := by
    rw [Writer.bytes, if_pos (by rw [hv, Nat.mod_self])]
  have hn : (v.length != 0) = true := by
    rw [hv]
    rfl
  simp only [Tx.encode, Writer.bytesField, Writer.field, hn, hb, if_true]
  rfl

/-- The round trip fails for a `Uint8Array` of `2 ^ 32` bytes: the decoded transaction has an empty
`txid`. -/
theorem decode_encode_loses_4gib_txid :
    MsgType.tx.decode (MsgType.tx.encode hugeTxidTx) = .ok baseTx ∧ baseTx ≠ hugeTxidTx := by
  refine ⟨?_, fun h => ?_⟩
  · show Tx.decode (Tx.encode { baseTx with txid := List.replicate (2 ^ 32) 0 }) = _
    rw [encode_txid_of_length (List.length_replicate _ _)]
    rfl
  · have h' := congrArg (fun t : Tx => t.txid.length) h
    change 0 = (List.replicate (2 ^ 32) (0 : UInt8)).length at h'
    rw [List.length_replicate] at h'
    exact absurd h' (by decide)

/-! ### Termination -/

/-- Every iteration of every decode loop throws or moves the reader forward, and every decode loop,
whatever the end it is given, reaches its outcome within `end - pos` iterations. -/
theorem decode_loop_progress (t : MsgType) (buf : Bytes) :
    (∀ m pos m' q, Act.step (t.readField) buf m pos = .ok (m', q) → pos < q) ∧
    ∀ stop m pos, ∃ n, n ≤ stop - pos ∧
      Act.Runs (t.readField) stop buf n m pos (Act.loop (t.readField) stop buf m pos) :=
  ⟨fun _ _ _ _ h => Act.step_lt h, fun _ m pos => Act.loop_runs m pos⟩

end Chronik
