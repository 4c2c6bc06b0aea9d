import Chronik.Proto.Codec
import Chronik.Protobuf.Merge

/-! # Decoding encodings written back to back

Protobuf defines the parse of two encodings written one after the other as the merge of the two
messages, and the generated decoders read such bytes in one loop. For each message, `merge a b` is
what `M.decode` returns on the encoding of `a` followed by that of `b`: each scalar field of `b`
that `b`'s encoding writes (one that is not its default) replaces `a`'s, each repeated field is
`a`'s elements followed by `b`'s, and each sub-message of `b` that is present replaces `a`'s whole,
where protobuf's `MergeFrom` merges the two sub-messages field by field.

* `MsgType.loopReads_merge`: the loop started in `a` on the encoding of `b` ends in `merge a b`.
* `decode_flatMap_encode`: every decoder reads any number of encodings written back to back to the
  left fold of `merge` over them, from the initial message. -/

namespace Chronik
open Writer

/-! ### SlpToken -/

namespace SlpToken

/-- The message `SlpToken.decode` reads from the encoding of `a` followed by that of `b`. -/
def merge (a b : SlpToken) : SlpToken where
  amount := if b.amount = 0 then a.amount else b.amount
  isMintBaton := b.isMintBaton || a.isMintBaton

theorem loopReads_merge (a b : SlpToken) :
    LoopReads readField (encode b) a (merge a b) :=
  LoopReads.long_merge amount (fun _ => rfl) (by rfl)
    |>.append (LoopReads.bool_merge isMintBaton (fun _ => rfl) (by rfl))

end SlpToken

/-! ### SlpBurn -/

namespace SlpBurn

/-- The message `SlpBurn.decode` reads from the encoding of `a` followed by that of `b`. -/
def merge (a b : SlpBurn) : SlpBurn where
  token := b.token.or a.token
  tokenId := if b.tokenId.length = 0 then a.tokenId else b.tokenId

theorem loopReads_merge (a b : SlpBurn) (h : b.LengthsFit) :
    LoopReads readField (encode b) a (merge a b) :=
  LoopReads.optional_merge token (fun s token => { s with token }) (fun _ => rfl) (by rfl)
      (fun v _ => SlpToken.loopReads_encode v)
    |>.append (LoopReads.bytes_merge tokenId (fun _ => rfl) (by rfl) h.tokenId)

end SlpBurn

/-! ### SlpMeta -/

namespace SlpMeta

/-- The message `SlpMeta.decode` reads from the encoding of `a` followed by that of `b`. -/
def merge (a b : SlpMeta) : SlpMeta where
  tokenType := if b.tokenType = 0 then a.tokenType else b.tokenType
  txType := if b.txType = 0 then a.txType else b.txType
  tokenId := if b.tokenId.length = 0 then a.tokenId else b.tokenId
  groupTokenId := if b.groupTokenId.length = 0 then a.groupTokenId else b.groupTokenId

theorem loopReads_merge (a b : SlpMeta) (h : b.LengthsFit) :
    LoopReads readField (encode b) a (merge a b) :=
  LoopReads.int32_merge tokenType (fun _ => rfl) (by rfl)
    |>.append (LoopReads.int32_merge txType (fun _ => rfl) (by rfl))
    |>.append (LoopReads.bytes_merge tokenId (fun _ => rfl) (by rfl) h.tokenId)
    |>.append (LoopReads.bytes_merge groupTokenId (fun _ => rfl) (by rfl) h.groupTokenId)

end SlpMeta

/-! ### SlpGenesisInfo -/

namespace SlpGenesisInfo

/-- The message `SlpGenesisInfo.decode` reads from the encoding of `a` followed by that of `b`. -/
def merge (a b : SlpGenesisInfo) : SlpGenesisInfo where
  tokenTicker := if b.tokenTicker.length = 0 then a.tokenTicker else b.tokenTicker
  tokenName := if b.tokenName.length = 0 then a.tokenName else b.tokenName
  tokenDocumentUrl := if b.tokenDocumentUrl.length = 0 then a.tokenDocumentUrl else b.tokenDocumentUrl
  tokenDocumentHash := if b.tokenDocumentHash.length = 0 then a.tokenDocumentHash else b.tokenDocumentHash
  decimals := if b.decimals = 0 then a.decimals else b.decimals

theorem loopReads_merge (a b : SlpGenesisInfo) (h : b.LengthsFit) :
    LoopReads readField (encode b) a (merge a b) :=
  LoopReads.bytes_merge tokenTicker (fun _ => rfl) (by rfl) h.tokenTicker
    |>.append (LoopReads.bytes_merge tokenName (fun _ => rfl) (by rfl) h.tokenName)
    |>.append (LoopReads.bytes_merge tokenDocumentUrl (fun _ => rfl) (by rfl) h.tokenDocumentUrl)
    |>.append (LoopReads.bytes_merge tokenDocumentHash (fun _ => rfl) (by rfl) h.tokenDocumentHash)
    |>.append (LoopReads.uint32_merge decimals (fun _ => rfl) (by rfl))

end SlpGenesisInfo

/-! ### SlpTxData -/

namespace SlpTxData

/-- The message `SlpTxData.decode` reads from the encoding of `a` followed by that of `b`. -/
def merge (a b : SlpTxData) : SlpTxData where
  slpMeta := b.slpMeta.or a.slpMeta
  genesisInfo := b.genesisInfo.or a.genesisInfo

theorem loopReads_merge (a b : SlpTxData) (h : b.LengthsFit) :
    LoopReads readField (encode b) a (merge a b) :=
  LoopReads.optional_merge slpMeta (fun s slpMeta => { s with slpMeta }) (fun _ => rfl) (by rfl)
      (fun v hv => SlpMeta.loopReads_encode v (h.slpMeta v hv))
    |>.append (LoopReads.optional_merge genesisInfo (fun s genesisInfo => { s with genesisInfo }) (fun _ => rfl) (by rfl)
      (fun v hv => SlpGenesisInfo.loopReads_encode v (h.genesisInfo v hv)))

end SlpTxData

/-! ### OutPoint -/

namespace OutPoint

/-- The message `OutPoint.decode` reads from the encoding of `a` followed by that of `b`. -/
def merge (a b : OutPoint) : OutPoint where
  txid := if b.txid.length = 0 then a.txid else b.txid
  outIdx := if b.outIdx = 0 then a.outIdx else b.outIdx

theorem loopReads_merge (a b : OutPoint) (h : b.LengthsFit) :
    LoopReads readField (encode b) a (merge a b) :=
  LoopReads.bytes_merge txid (fun _ => rfl) (by rfl) h.txid
    |>.append (LoopReads.uint32_merge outIdx (fun _ => rfl) (by rfl))

end OutPoint

/-! ### BlockMetadata -/

namespace BlockMetadata

/-- The message `BlockMetadata.decode` reads from the encoding of `a` followed by that of `b`. -/
def merge (a b : BlockMetadata) : BlockMetadata where
  height := if b.height = 0 then a.height else b.height
  hash := if b.hash.length = 0 then a.hash else b.hash
  timestamp := if b.timestamp = 0 then a.timestamp else b.timestamp

theorem loopReads_merge (a b : BlockMetadata) (h : b.LengthsFit) :
    LoopReads readField (encode b) a (merge a b) :=
  LoopReads.int32_merge height (fun _ => rfl) (by rfl)
    |>.append (LoopReads.bytes_merge hash (fun _ => rfl) (by rfl) h.hash)
    |>.append (LoopReads.long_merge timestamp (fun _ => rfl) (by rfl))

end BlockMetadata

/-! ### TxInput -/

namespace TxInput

/-- The message `TxInput.decode` reads from the encoding of `a` followed by that of `b`. -/
def merge (a b : TxInput) : TxInput where
  prevOut := b.prevOut.or a.prevOut
  inputScript := if b.inputScript.length = 0 then a.inputScript else b.inputScript
  outputScript := if b.outputScript.length = 0 then a.outputScript else b.outputScript
  value := if b.value = 0 then a.value else b.value
  sequenceNo := if b.sequenceNo = 0 then a.sequenceNo else b.sequenceNo
  slpBurn := b.slpBurn.or a.slpBurn
  slpToken := b.slpToken.or a.slpToken

theorem loopReads_merge (a b : TxInput) (h : b.LengthsFit) :
    LoopReads readField (encode b) a (merge a b) :=
  LoopReads.optional_merge prevOut (fun s prevOut => { s with prevOut }) (fun _ => rfl) (by rfl)
      (fun v hv => OutPoint.loopReads_encode v (h.prevOut v hv))
    |>.append (LoopReads.bytes_merge inputScript (fun _ => rfl) (by rfl) h.inputScript)
    |>.append (LoopReads.bytes_merge outputScript (fun _ => rfl) (by rfl) h.outputScript)
    |>.append (LoopReads.long_merge value (fun _ => rfl) (by rfl))
    |>.append (LoopReads.uint32_merge sequenceNo (fun _ => rfl) (by rfl))
    |>.append (LoopReads.optional_merge slpBurn (fun s slpBurn => { s with slpBurn }) (fun _ => rfl) (by rfl)
      (fun v hv => SlpBurn.loopReads_encode v (h.slpBurn v hv)))
    |>.append (LoopReads.optional_merge slpToken (fun s slpToken => { s with slpToken }) (fun _ => rfl) (by rfl)
      (fun v _ => SlpToken.loopReads_encode v))

end TxInput

/-! ### TxOutput -/

namespace TxOutput

/-- The message `TxOutput.decode` reads from the encoding of `a` followed by that of `b`. -/
def merge (a b : TxOutput) : TxOutput where
  value := if b.value = 0 then a.value else b.value
  outputScript := if b.outputScript.length = 0 then a.outputScript else b.outputScript
  slpToken := b.slpToken.or a.slpToken
  spentBy := b.spentBy.or a.spentBy

theorem loopReads_merge (a b : TxOutput) (h : b.LengthsFit) :
    LoopReads readField (encode b) a (merge a b) :=
  LoopReads.long_merge value (fun _ => rfl) (by rfl)
    |>.append (LoopReads.bytes_merge outputScript (fun _ => rfl) (by rfl) h.outputScript)
    |>.append (LoopReads.optional_merge slpToken (fun s slpToken => { s with slpToken }) (fun _ => rfl) (by rfl)
      (fun v _ => SlpToken.loopReads_encode v))
    |>.append (LoopReads.optional_merge spentBy (fun s spentBy => { s with spentBy }) (fun _ => rfl) (by rfl)
      (fun v hv => OutPoint.loopReads_encode v (h.spentBy v hv)))

end TxOutput

/-! ### Tx -/

namespace Tx

/-- The message `Tx.decode` reads from the encoding of `a` followed by that of `b`. -/
def merge (a b : Tx) : Tx where
  txid := if b.txid.length = 0 then a.txid else b.txid
  version := if b.version = 0 then a.version else b.version
  inputs := a.inputs ++ b.inputs
  outputs := a.outputs ++ b.outputs
  lockTime := if b.lockTime = 0 then a.lockTime else b.lockTime
  slpTxData := b.slpTxData.or a.slpTxData
  slpErrorMsg := if b.slpErrorMsg = "" then a.slpErrorMsg else b.slpErrorMsg
  block := b.block.or a.block
  timeFirstSeen := if b.timeFirstSeen = 0 then a.timeFirstSeen else b.timeFirstSeen
  network := if b.network = 0 then a.network else b.network

theorem loopReads_merge (a b : Tx) (h : b.LengthsFit) :
    LoopReads readField (encode b) a (merge a b) :=
  LoopReads.bytes_merge txid (fun _ => rfl) (by rfl) h.txid
    |>.append (LoopReads.int32_merge version (fun _ => rfl) (by rfl))
    |>.append (LoopReads.repeated_merge inputs (fun s inputs => { s with inputs }) (fun _ _ => rfl) (by rfl)
      (fun v hv => TxInput.loopReads_encode v (h.inputs v hv)))
    |>.append (LoopReads.repeated_merge outputs (fun s outputs => { s with outputs }) (fun _ _ => rfl) (by rfl)
      (fun v hv => TxOutput.loopReads_encode v (h.outputs v hv)))
    |>.append (LoopReads.uint32_merge lockTime (fun _ => rfl) (by rfl))
    |>.append (LoopReads.optional_merge slpTxData (fun s slpTxData => { s with slpTxData }) (fun _ => rfl) (by rfl)
      (fun v hv => SlpTxData.loopReads_encode v (h.slpTxData v hv)))
    |>.append (LoopReads.string_merge slpErrorMsg (fun _ => rfl) (by rfl))
    |>.append (LoopReads.optional_merge block (fun s block => { s with block }) (fun _ => rfl) (by rfl)
      (fun v hv => BlockMetadata.loopReads_encode v (h.block v hv)))
    |>.append (LoopReads.long_merge timeFirstSeen (fun _ => rfl) (by rfl))
    |>.append (LoopReads.int32_merge network (fun _ => rfl) (by rfl))

end Tx

/-! ### BlockInfo -/

namespace BlockInfo

/-- The message `BlockInfo.decode` reads from the encoding of `a` followed by that of `b`. -/
def merge (a b : BlockInfo) : BlockInfo where
  hash := if b.hash.length = 0 then a.hash else b.hash
  prevHash := if b.prevHash.length = 0 then a.prevHash else b.prevHash
  height := if b.height = 0 then a.height else b.height
  nBits := if b.nBits = 0 then a.nBits else b.nBits
  timestamp := if b.timestamp = 0 then a.timestamp else b.timestamp
  blockSize := if b.blockSize = 0 then a.blockSize else b.blockSize
  numTxs := if b.numTxs = 0 then a.numTxs else b.numTxs
  numInputs := if b.numInputs = 0 then a.numInputs else b.numInputs
  numOutputs := if b.numOutputs = 0 then a.numOutputs else b.numOutputs
  sumInputSats := if b.sumInputSats = 0 then a.sumInputSats else b.sumInputSats
  sumCoinbaseOutputSats := if b.sumCoinbaseOutputSats = 0 then a.sumCoinbaseOutputSats else b.sumCoinbaseOutputSats
  sumNormalOutputSats := if b.sumNormalOutputSats = 0 then a.sumNormalOutputSats else b.sumNormalOutputSats
  sumBurnedSats := if b.sumBurnedSats = 0 then a.sumBurnedSats else b.sumBurnedSats

theorem loopReads_merge (a b : BlockInfo) (h : b.LengthsFit) :
    LoopReads readField (encode b) a (merge a b) :=
  LoopReads.bytes_merge hash (fun _ => rfl) (by rfl) h.hash
    |>.append (LoopReads.bytes_merge prevHash (fun _ => rfl) (by rfl) h.prevHash)
    |>.append (LoopReads.int32_merge height (fun _ => rfl) (by rfl))
    |>.append (LoopReads.uint32_merge nBits (fun _ => rfl) (by rfl))
    |>.append (LoopReads.long_merge timestamp (fun _ => rfl) (by rfl))
    |>.append (LoopReads.long_merge blockSize (fun _ => rfl) (by rfl))
    |>.append (LoopReads.long_merge numTxs (fun _ => rfl) (by rfl))
    |>.append (LoopReads.long_merge numInputs (fun _ => rfl) (by rfl))
    |>.append (LoopReads.long_merge numOutputs (fun _ => rfl) (by rfl))
    |>.append (LoopReads.long_merge sumInputSats (fun _ => rfl) (by rfl))
    |>.append (LoopReads.long_merge sumCoinbaseOutputSats (fun _ => rfl) (by rfl))
    |>.append (LoopReads.long_merge sumNormalOutputSats (fun _ => rfl) (by rfl))
    |>.append (LoopReads.long_merge sumBurnedSats (fun _ => rfl) (by rfl))

end BlockInfo

/-! ### Block -/

namespace Block

/-- The message `Block.decode` reads from the encoding of `a` followed by that of `b`. -/
def merge (a b : Block) : Block where
  blockInfo := b.blockInfo.or a.blockInfo
  txs := a.txs ++ b.txs

theorem loopReads_merge (a b : Block) (h : b.LengthsFit) :
    LoopReads readField (encode b) a (merge a b) :=
  LoopReads.optional_merge blockInfo (fun s blockInfo => { s with blockInfo }) (fun _ => rfl) (by rfl)
      (fun v hv => BlockInfo.loopReads_encode v (h.blockInfo v hv))
    |>.append (LoopReads.repeated_merge txs (fun s txs => { s with txs }) (fun _ _ => rfl) (by rfl)
      (fun v hv => Tx.loopReads_encode v (h.txs v hv)))

end Block

/-! ### Blocks -/

namespace Blocks

/-- The message `Blocks.decode` reads from the encoding of `a` followed by that of `b`. -/
def merge (a b : Blocks) : Blocks where
  blocks := a.blocks ++ b.blocks

theorem loopReads_merge (a b : Blocks) (h : b.LengthsFit) :
    LoopReads readField (encode b) a (merge a b) :=
  LoopReads.repeated_merge blocks (fun s blocks => { s with blocks }) (fun _ _ => rfl) (by rfl)
      (fun v hv => BlockInfo.loopReads_encode v (h.blocks v hv))

end Blocks

/-! ### TxHistoryPage -/

namespace TxHistoryPage

/-- The message `TxHistoryPage.decode` reads from the encoding of `a` followed by that of `b`. -/
def merge (a b : TxHistoryPage) : TxHistoryPage where
  txs := a.txs ++ b.txs
  numPages := if b.numPages = 0 then a.numPages else b.numPages

theorem loopReads_merge (a b : TxHistoryPage) (h : b.LengthsFit) :
    LoopReads readField (encode b) a (merge a b) :=
  LoopReads.repeated_merge txs (fun s txs => { s with txs }) (fun _ _ => rfl) (by rfl)
      (fun v hv => Tx.loopReads_encode v (h.txs v hv))
    |>.append (LoopReads.uint32_merge numPages (fun _ => rfl) (by rfl))

end TxHistoryPage

/-! ### Utxo -/

namespace Utxo

/-- The message `Utxo.decode` reads from the encoding of `a` followed by that of `b`. -/
def merge (a b : Utxo) : Utxo where
  outpoint := b.outpoint.or a.outpoint
  blockHeight := if b.blockHeight = 0 then a.blockHeight else b.blockHeight
  isCoinbase := b.isCoinbase || a.isCoinbase
  value := if b.value = 0 then a.value else b.value
  slpMeta := b.slpMeta.or a.slpMeta
  slpToken := b.slpToken.or a.slpToken
  network := if b.network = 0 then a.network else b.network

theorem loopReads_merge (a b : Utxo) (h : b.LengthsFit) :
    LoopReads readField (encode b) a (merge a b) :=
  LoopReads.optional_merge outpoint (fun s outpoint => { s with outpoint }) (fun _ => rfl) (by rfl)
      (fun v hv => OutPoint.loopReads_encode v (h.outpoint v hv))
    |>.append (LoopReads.int32_merge blockHeight (fun _ => rfl) (by rfl))
    |>.append (LoopReads.bool_merge isCoinbase (fun _ => rfl) (by rfl))
    |>.append (LoopReads.long_merge value (fun _ => rfl) (by rfl))
    |>.append (LoopReads.optional_merge slpMeta (fun s slpMeta => { s with slpMeta }) (fun _ => rfl) (by rfl)
      (fun v hv => SlpMeta.loopReads_encode v (h.slpMeta v hv)))
    |>.append (LoopReads.optional_merge slpToken (fun s slpToken => { s with slpToken }) (fun _ => rfl) (by rfl)
      (fun v _ => SlpToken.loopReads_encode v))
    |>.append (LoopReads.int32_merge network (fun _ => rfl) (by rfl))

end Utxo

/-! ### ScriptUtxos -/

namespace ScriptUtxos

/-- The message `ScriptUtxos.decode` reads from the encoding of `a` followed by that of `b`. -/
def merge (a b : ScriptUtxos) : ScriptUtxos where
  outputScript := if b.outputScript.length = 0 then a.outputScript else b.outputScript
  utxos := a.utxos ++ b.utxos

theorem loopReads_merge (a b : ScriptUtxos) (h : b.LengthsFit) :
    LoopReads readField (encode b) a (merge a b) :=
  LoopReads.bytes_merge outputScript (fun _ => rfl) (by rfl) h.outputScript
    |>.append (LoopReads.repeated_merge utxos (fun s utxos => { s with utxos }) (fun _ _ => rfl) (by rfl)
      (fun v hv => Utxo.loopReads_encode v (h.utxos v hv)))

end ScriptUtxos

/-! ### Utxos -/

namespace Utxos

/-- The message `Utxos.decode` reads from the encoding of `a` followed by that of `b`. -/
def merge (a b : Utxos) : Utxos where
  scriptUtxos := a.scriptUtxos ++ b.scriptUtxos

theorem loopReads_merge (a b : Utxos) (h : b.LengthsFit) :
    LoopReads readField (encode b) a (merge a b) :=
  LoopReads.repeated_merge scriptUtxos (fun s scriptUtxos => { s with scriptUtxos }) (fun _ _ => rfl) (by rfl)
      (fun v hv => ScriptUtxos.loopReads_encode v (h.scriptUtxos v hv))

end Utxos

/-! ### UtxoState -/

namespace UtxoState

/-- The message `UtxoState.decode` reads from the encoding of `a` followed by that of `b`. -/
def merge (a b : UtxoState) : UtxoState where
  height := if b.height = 0 then a.height else b.height
  isConfirmed := b.isConfirmed || a.isConfirmed
  state := if b.state = 0 then a.state else b.state

theorem loopReads_merge (a b : UtxoState) :
    LoopReads readField (encode b) a (merge a b) :=
  LoopReads.int32_merge height (fun _ => rfl) (by rfl)
    |>.append (LoopReads.bool_merge isConfirmed (fun _ => rfl) (by rfl))
    |>.append (LoopReads.int32_merge state (fun _ => rfl) (by rfl))

end UtxoState

/-! ### ValidateUtxoRequest -/

namespace ValidateUtxoRequest

/-- The message `ValidateUtxoRequest.decode` reads from the encoding of `a` followed by that of `b`. -/
def merge (a b : ValidateUtxoRequest) : ValidateUtxoRequest where
  outpoints := a.outpoints ++ b.outpoints

theorem loopReads_merge (a b : ValidateUtxoRequest) (h : b.LengthsFit) :
    LoopReads readField (encode b) a (merge a b) :=
  LoopReads.repeated_merge outpoints (fun s outpoints => { s with outpoints }) (fun _ _ => rfl) (by rfl)
      (fun v hv => OutPoint.loopReads_encode v (h.outpoints v hv))

end ValidateUtxoRequest

/-! ### ValidateUtxoResponse -/

namespace ValidateUtxoResponse

/-- The message `ValidateUtxoResponse.decode` reads from the encoding of `a` followed by that of `b`. -/
def merge (a b : ValidateUtxoResponse) : ValidateUtxoResponse where
  utxoStates := a.utxoStates ++ b.utxoStates

theorem loopReads_merge (a b : ValidateUtxoResponse) :
    LoopReads readField (encode b) a (merge a b) :=
  LoopReads.repeated_merge utxoStates (fun s utxoStates => { s with utxoStates }) (fun _ _ => rfl) (by rfl)
      (fun v _ => UtxoState.loopReads_encode v)

end ValidateUtxoResponse

/-! ### BroadcastTxRequest -/

namespace BroadcastTxRequest

/-- The message `BroadcastTxRequest.decode` reads from the encoding of `a` followed by that of `b`. -/
def merge (a b : BroadcastTxRequest) : BroadcastTxRequest where
  rawTx := if b.rawTx.length = 0 then a.rawTx else b.rawTx
  skipSlpCheck := b.skipSlpCheck || a.skipSlpCheck

theorem loopReads_merge (a b : BroadcastTxRequest) (h : b.LengthsFit) :
    LoopReads readField (encode b) a (merge a b) :=
  LoopReads.bytes_merge rawTx (fun _ => rfl) (by rfl) h.rawTx
    |>.append (LoopReads.bool_merge skipSlpCheck (fun _ => rfl) (by rfl))

end BroadcastTxRequest

/-! ### TxidMsg -/

namespace TxidMsg

/-- The message `TxidMsg.decode` reads from the encoding of `a` followed by that of `b`. -/
def merge (a b : TxidMsg) : TxidMsg where
  txid := if b.txid.length = 0 then a.txid else b.txid

theorem loopReads_merge (a b : TxidMsg) (h : b.LengthsFit) :
    LoopReads readField (encode b) a (merge a b) :=
  @LoopReads.bytes_merge _ readField 10 _ txid _ _ (fun _ => rfl) (by rfl) h.txid

end TxidMsg

/-! ### Subscription -/

namespace Subscription

/-- The message `Subscription.decode` reads from the encoding of `a` followed by that of `b`. -/
def merge (a b : Subscription) : Subscription where
  scriptType := if b.scriptType = "" then a.scriptType else b.scriptType
  payload := if b.payload.length = 0 then a.payload else b.payload
  isSubscribe := b.isSubscribe || a.isSubscribe

theorem loopReads_merge (a b : Subscription) (h : b.LengthsFit) :
    LoopReads readField (encode b) a (merge a b) :=
  LoopReads.string_merge scriptType (fun _ => rfl) (by rfl)
    |>.append (LoopReads.bytes_merge payload (fun _ => rfl) (by rfl) h.payload)
    |>.append (LoopReads.bool_merge isSubscribe (fun _ => rfl) (by rfl))

end Subscription

/-! ### Error -/

namespace Error

/-- The message `Error.decode` reads from the encoding of `a` followed by that of `b`. -/
def merge (a b : Error) : Error where
  errorCode := if b.errorCode = "" then a.errorCode else b.errorCode
  msg := if b.msg = "" then a.msg else b.msg
  isUserError := b.isUserError || a.isUserError

theorem loopReads_merge (a b : Error) :
    LoopReads readField (encode b) a (merge a b) :=
  LoopReads.string_merge errorCode (fun _ => rfl) (by rfl)
    |>.append (LoopReads.string_merge msg (fun _ => rfl) (by rfl))
    |>.append (LoopReads.bool_merge isUserError (fun _ => rfl) (by rfl))

end Error

/-! ### SubscribeMsg -/

namespace SubscribeMsg

/-- The message `SubscribeMsg.decode` reads from the encoding of `a` followed by that of `b`. -/
def merge (a b : SubscribeMsg) : SubscribeMsg where
  error := b.error.or a.error
  AddedToMempool := b.AddedToMempool.or a.AddedToMempool
  RemovedFromMempool := b.RemovedFromMempool.or a.RemovedFromMempool
  Confirmed := b.Confirmed.or a.Confirmed
  Reorg := b.Reorg.or a.Reorg

theorem loopReads_merge (a b : SubscribeMsg) (h : b.LengthsFit) :
    LoopReads readField (encode b) a (merge a b) :=
  LoopReads.optional_merge error (fun (s : SubscribeMsg) error => { s with error }) (fun _ => rfl) (by rfl)
      (fun v _ => Error.loopReads_encode v)
    |>.append (LoopReads.optional_merge AddedToMempool (fun s v => { s with AddedToMempool := v }) (fun _ => rfl) (by rfl)
      (fun v hv => TxidMsg.loopReads_encode v (h.AddedToMempool v hv)))
    |>.append (LoopReads.optional_merge RemovedFromMempool (fun s v => { s with RemovedFromMempool := v }) (fun _ => rfl) (by rfl)
      (fun v hv => TxidMsg.loopReads_encode v (h.RemovedFromMempool v hv)))
    |>.append (LoopReads.optional_merge Confirmed (fun s v => { s with Confirmed := v }) (fun _ => rfl) (by rfl)
      (fun v hv => TxidMsg.loopReads_encode v (h.Confirmed v hv)))
    |>.append (LoopReads.optional_merge Reorg (fun s v => { s with Reorg := v }) (fun _ => rfl) (by rfl)
      (fun v hv => TxidMsg.loopReads_encode v (h.Reorg v hv)))

end SubscribeMsg

/-! ### Every message -/

namespace MsgType

/-- The merge of each message, as its decoder reads two encodings back to back. -/
def merge : (t : MsgType) → t.Message → t.Message → t.Message
  | tx => Tx.merge | txInput => TxInput.merge | txOutput => TxOutput.merge
  | outPoint => OutPoint.merge | blockInfo => BlockInfo.merge
  | blockMetadata => BlockMetadata.merge | block => Block.merge | blocks => Blocks.merge
  | utxo => Utxo.merge | scriptUtxos => ScriptUtxos.merge | utxos => Utxos.merge
  | txHistoryPage => TxHistoryPage.merge | slpTxData => SlpTxData.merge
  | slpMeta => SlpMeta.merge | slpToken => SlpToken.merge | slpBurn => SlpBurn.merge
  | slpGenesisInfo => SlpGenesisInfo.merge | validateUtxoRequest => ValidateUtxoRequest.merge
  | validateUtxoResponse => ValidateUtxoResponse.merge | utxoState => UtxoState.merge
  | broadcastTxRequest => BroadcastTxRequest.merge | broadcastTxResponse => TxidMsg.merge
  | subscription => Subscription.merge | subscribeMsg => SubscribeMsg.merge
  | msgAddedToMempool => TxidMsg.merge | msgRemovedFromMempool => TxidMsg.merge
  | msgConfirmed => TxidMsg.merge | msgReorg => TxidMsg.merge | error => Error.merge

/-- The decode loop of each message, started in `a` on the encoding of `b`, ends in `merge a b`. -/
theorem loopReads_merge : (t : MsgType) → (a b : t.Message) → t.LengthsFit b →
    LoopReads t.readField (t.encode b) a (t.merge a b)
  | tx, a, b, h => Tx.loopReads_merge a b h | txInput, a, b, h => TxInput.loopReads_merge a b h
  | txOutput, a, b, h => TxOutput.loopReads_merge a b h
  | outPoint, a, b, h => OutPoint.loopReads_merge a b h
  | blockInfo, a, b, h => BlockInfo.loopReads_merge a b h
  | blockMetadata, a, b, h => BlockMetadata.loopReads_merge a b h
  | block, a, b, h => Block.loopReads_merge a b h | blocks, a, b, h => Blocks.loopReads_merge a b h
  | utxo, a, b, h => Utxo.loopReads_merge a b h
  | scriptUtxos, a, b, h => ScriptUtxos.loopReads_merge a b h
  | utxos, a, b, h => Utxos.loopReads_merge a b h
  | txHistoryPage, a, b, h => TxHistoryPage.loopReads_merge a b h
  | slpTxData, a, b, h => SlpTxData.loopReads_merge a b h
  | slpMeta, a, b, h => SlpMeta.loopReads_merge a b h
  | slpToken, a, b, _ => SlpToken.loopReads_merge a b
  | slpBurn, a, b, h => SlpBurn.loopReads_merge a b h
  | slpGenesisInfo, a, b, h => SlpGenesisInfo.loopReads_merge a b h
  | validateUtxoRequest, a, b, h => ValidateUtxoRequest.loopReads_merge a b h
  | validateUtxoResponse, a, b, _ => ValidateUtxoResponse.loopReads_merge a b
  | utxoState, a, b, _ => UtxoState.loopReads_merge a b
  | broadcastTxRequest, a, b, h => BroadcastTxRequest.loopReads_merge a b h
  | broadcastTxResponse, a, b, h => TxidMsg.loopReads_merge a b h
  | subscription, a, b, h => Subscription.loopReads_merge a b h
  | subscribeMsg, a, b, h => SubscribeMsg.loopReads_merge a b h
  | msgAddedToMempool, a, b, h => TxidMsg.loopReads_merge a b h
  | msgRemovedFromMempool, a, b, h => TxidMsg.loopReads_merge a b h
  | msgConfirmed, a, b, h => TxidMsg.loopReads_merge a b h
  | msgReorg, a, b, h => TxidMsg.loopReads_merge a b h
  | error, a, b, _ => Error.loopReads_merge a b

/-- The loop started in `s` on encodings written back to back folds `merge` over them. -/
theorem loopReads_flatMap (t : MsgType) :
    ∀ (ms : List t.Message) (s : t.Message), (∀ m ∈ ms, t.LengthsFit m) →
      LoopReads t.readField (ms.flatMap t.encode) s (ms.foldl t.merge s)
  | [], s, _ => LoopReads.nil s
  | m :: ms, s, h => (t.loopReads_merge s m (h m (List.mem_cons_self m ms))).append
      (loopReads_flatMap t ms (t.merge s m) fun m' hm => h m' (List.mem_cons_of_mem m hm))

end MsgType

/-- Every decoder reads encodings written back to back, whose `Uint8Array`s and whole length are
under `2 ^ 32` bytes, to the left fold of `merge` over the messages from the initial message. -/
theorem decode_flatMap_encode (t : MsgType) (ms : List t.Message) (hfit : ∀ m ∈ ms, t.LengthsFit m)
    (hlen : (ms.flatMap t.encode).length < 2 ^ 32) :
    t.decode (ms.flatMap t.encode) = .ok (ms.foldl t.merge t.base) := by
  rw [MsgType.decode_eq]
  exact (t.loopReads_flatMap ms t.base hfit).decode hlen

theorem decode_flatMap_encode_slpToken :
    MsgType.slpToken.decode ([(⟨5, true⟩ : SlpToken), ⟨0, false⟩].flatMap MsgType.slpToken.encode) =
      .ok ([(⟨5, true⟩ : SlpToken), ⟨0, false⟩].foldl MsgType.slpToken.merge MsgType.slpToken.base) :=
  decode_flatMap_encode .slpToken _ (fun _ _ => trivial) (by decide)

/-- A block present in both transactions: the second replaces the first whole, so the first's
timestamp `5` is lost where `MergeFrom` would keep it. -/
example : (Tx.merge { baseTx with block := some ⟨1, [], 5⟩ } { baseTx with block := some ⟨2, [], 0⟩ }).block =
    some ⟨2, [], 0⟩ := rfl

end Chronik
