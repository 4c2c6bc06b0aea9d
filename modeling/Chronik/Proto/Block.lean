import Chronik.Proto.Tx

/-! # Block messages of `chronik.ts`

`BlockInfo`, `Block`, `Blocks` and `TxHistoryPage`, in the shape of `Proto/Slp.lean`. The `uint64`
fields of `BlockInfo` are read by `reader.uint64()` and its `int64` fields by `reader.int64()`: one
`readLongVarint`, whose `Long` the decoder makes unsigned or signed by the field. -/

namespace Chronik
open Writer

/-! ### BlockInfo -/

/-- The `BlockInfo` interface. -/
structure BlockInfo where
  hash : Bytes
  prevHash : Bytes
  height : Int32
  nBits : Uint32
  timestamp : Long
  blockSize : Long
  numTxs : Long
  numInputs : Long
  numOutputs : Long
  sumInputSats : Long
  sumCoinbaseOutputSats : Long
  sumNormalOutputSats : Long
  sumBurnedSats : Long
  deriving DecidableEq, Repr

/-- The initial message of `BlockInfo.decode`: `baseBlockInfo` and both hashes `new Uint8Array()`. -/
def baseBlockInfo : BlockInfo := ⟨[], [], 0, 0, 0, 0, 0, 0, 0, 0, 0, 0, 0⟩

namespace BlockInfo

/-- The writes of `BlockInfo.encode`. -/
def encode (message : BlockInfo) : Bytes :=
  bytesField 10 message.hash ++ bytesField 18 message.prevHash ++ int32Field 24 message.height ++
    uint32Field 32 message.nBits ++ longField 40 message.timestamp ++ longField 48 message.blockSize ++
    longField 56 message.numTxs ++ longField 64 message.numInputs ++ longField 72 message.numOutputs ++
    longField 80 message.sumInputSats ++ longField 88 message.sumCoinbaseOutputSats ++
    longField 96 message.sumNormalOutputSats ++ longField 104 message.sumBurnedSats

/-- The `switch (tag >>> 3)` of `BlockInfo.decode`; an unknown field is skipped by its wire type
`tag & 7`. -/
def readField (tag : Nat) (message : BlockInfo) : Act BlockInfo :=
  match tag / 8 with
  | 1 => (fun hash => { message with hash }) <$> Act.bytes
  | 2 => (fun prevHash => { message with prevHash }) <$> Act.bytes
  | 3 => (fun height => { message with height }) <$> Act.int32
  | 4 => (fun nBits => { message with nBits }) <$> Act.uint32
  | 5 => (fun timestamp => { message with timestamp }) <$> Act.int64
  | 6 => (fun blockSize => { message with blockSize }) <$> Act.int64
  | 7 => (fun numTxs => { message with numTxs }) <$> Act.int64
  | 8 => (fun numInputs => { message with numInputs }) <$> Act.int64
  | 9 => (fun numOutputs => { message with numOutputs }) <$> Act.int64
  | 10 => (fun sumInputSats => { message with sumInputSats }) <$> Act.int64
  | 11 => (fun sumCoinbaseOutputSats => { message with sumCoinbaseOutputSats }) <$> Act.int64
  | 12 => (fun sumNormalOutputSats => { message with sumNormalOutputSats }) <$> Act.int64
  | 13 => (fun sumBurnedSats => { message with sumBurnedSats }) <$> Act.int64
  | _ => (fun _ => message) <$> Act.skipType (tag % 8)

/-- The call `BlockInfo.decode(input)`. -/
def decode (input : Bytes) : Except DecodeError BlockInfo := Act.decode readField baseBlockInfo input

/-- The call `BlockInfo.decode(reader, reader.uint32())`. -/
def decodeNested : Act BlockInfo := Act.nested readField baseBlockInfo

/-- The `Uint8Array`s of the message are shorter than `2 ^ 32` bytes. -/
structure LengthsFit (message : BlockInfo) : Prop where
  hash : message.hash.length < 2 ^ 32
  prevHash : message.prevHash.length < 2 ^ 32

theorem loopReads_encode (message : BlockInfo) (h : message.LengthsFit) :
    LoopReads readField (encode message) baseBlockInfo message :=
  LoopReads.bytes (fun _ => rfl) (by rfl) h.hash
    |>.append (LoopReads.bytes (fun _ => rfl) (by rfl) h.prevHash)
    |>.append (LoopReads.int32 (fun _ => rfl) (by rfl))
    |>.append (LoopReads.uint32 (fun _ => rfl) (by rfl))
    |>.append (LoopReads.long (fun _ => rfl) (by rfl))
    |>.append (LoopReads.long (fun _ => rfl) (by rfl))
    |>.append (LoopReads.long (fun _ => rfl) (by rfl))
    |>.append (LoopReads.long (fun _ => rfl) (by rfl))
    |>.append (LoopReads.long (fun _ => rfl) (by rfl))
    |>.append (LoopReads.long (fun _ => rfl) (by rfl))
    |>.append (LoopReads.long (fun _ => rfl) (by rfl))
    |>.append (LoopReads.long (fun _ => rfl) (by rfl))
    |>.append (LoopReads.long (fun _ => rfl) (by rfl))

end BlockInfo

/-! ### Block -/

/-- The `Block` interface. -/
structure Block where
  blockInfo : Option BlockInfo
  txs : List Tx
  deriving DecidableEq, Repr

/-- The initial message of `Block.decode`: `baseBlock` and `txs = []`. -/
def baseBlock : Block := ⟨none, []⟩

namespace Block

/-- The writes of `Block.encode`. -/
def encode (message : Block) : Bytes :=
  messageField 10 BlockInfo.encode message.blockInfo ++ repeatedField 18 Tx.encode message.txs

/-- The `switch (tag >>> 3)` of `Block.decode`. -/
def readField (tag : Nat) (message : Block) : Act Block :=
  match tag / 8 with
  | 1 => (fun blockInfo => { message with blockInfo := some blockInfo }) <$> BlockInfo.decodeNested
  | 2 => (fun tx => { message with txs := message.txs ++ [tx] }) <$> Tx.decodeNested
  | _ => (fun _ => message) <$> Act.skipType (tag % 8)

/-- The call `Block.decode(input)`. -/
def decode (input : Bytes) : Except DecodeError Block := Act.decode readField baseBlock input

/-- The `Uint8Array`s of the sub-messages are shorter than `2 ^ 32` bytes. -/
structure LengthsFit (message : Block) : Prop where
  blockInfo : ∀ v ∈ message.blockInfo, v.LengthsFit
  txs : ∀ v ∈ message.txs, v.LengthsFit

theorem loopReads_encode (message : Block) (h : message.LengthsFit) :
    LoopReads readField (encode message) baseBlock message :=
  LoopReads.optional (fun s blockInfo => { s with blockInfo }) (fun _ => rfl) (by rfl)
      (fun v hv => BlockInfo.loopReads_encode v (h.blockInfo v hv))
    |>.append (LoopReads.repeated (fun s txs => { s with txs }) (fun _ _ => rfl) (by rfl)
      fun v hv => Tx.loopReads_encode v (h.txs v hv))

end Block

/-! ### Blocks -/

/-- The `Blocks` interface. -/
structure Blocks where
  blocks : List BlockInfo
  deriving DecidableEq, Repr

/-- The initial message of `Blocks.decode`: `baseBlocks` and `blocks = []`. -/
def baseBlocks : Blocks := ⟨[]⟩

namespace Blocks

/-- The writes of `Blocks.encode`. -/
def encode (message : Blocks) : Bytes := repeatedField 10 BlockInfo.encode message.blocks

/-- The `switch (tag >>> 3)` of `Blocks.decode`. -/
def readField (tag : Nat) (message : Blocks) : Act Blocks :=
  match tag / 8 with
  | 1 => (fun block => { message with blocks := message.blocks ++ [block] }) <$> BlockInfo.decodeNested
  | _ => (fun _ => message) <$> Act.skipType (tag % 8)

/-- The call `Blocks.decode(input)`. -/
def decode (input : Bytes) : Except DecodeError Blocks := Act.decode readField baseBlocks input

/-- The `Uint8Array`s of the sub-messages are shorter than `2 ^ 32` bytes. -/
structure LengthsFit (message : Blocks) : Prop where
  blocks : ∀ v ∈ message.blocks, v.LengthsFit

theorem loopReads_encode (message : Blocks) (h : message.LengthsFit) :
    LoopReads readField (encode message) baseBlocks message :=
  LoopReads.repeated (fun (s : Blocks) blocks => { s with blocks }) (fun _ _ => rfl) (by rfl)
    fun v hv => BlockInfo.loopReads_encode v (h.blocks v hv)

end Blocks

/-! ### TxHistoryPage -/

/-- The `TxHistoryPage` interface. -/
structure TxHistoryPage where
  txs : List Tx
  numPages : Uint32
  deriving DecidableEq, Repr

/-- The initial message of `TxHistoryPage.decode`: `baseTxHistoryPage` and `txs = []`. -/
def baseTxHistoryPage : TxHistoryPage := ⟨[], 0⟩

namespace TxHistoryPage

/-- The writes of `TxHistoryPage.encode`. -/
def encode (message : TxHistoryPage) : Bytes :=
  repeatedField 10 Tx.encode message.txs ++ uint32Field 16 message.numPages

/-- The `switch (tag >>> 3)` of `TxHistoryPage.decode`. -/
def readField (tag : Nat) (message : TxHistoryPage) : Act TxHistoryPage :=
  match tag / 8 with
  | 1 => (fun tx => { message with txs := message.txs ++ [tx] }) <$> Tx.decodeNested
  | 2 => (fun numPages => { message with numPages }) <$> Act.uint32
  | _ => (fun _ => message) <$> Act.skipType (tag % 8)

/-- The call `TxHistoryPage.decode(input)`. -/
def decode (input : Bytes) : Except DecodeError TxHistoryPage :=
  Act.decode readField baseTxHistoryPage input

/-- The `Uint8Array`s of the sub-messages are shorter than `2 ^ 32` bytes. -/
structure LengthsFit (message : TxHistoryPage) : Prop where
  txs : ∀ v ∈ message.txs, v.LengthsFit

theorem loopReads_encode (message : TxHistoryPage) (h : message.LengthsFit) :
    LoopReads readField (encode message) baseTxHistoryPage message :=
  LoopReads.repeated (fun s txs => { s with txs }) (fun _ _ => rfl) (by rfl)
      (fun v hv => Tx.loopReads_encode v (h.txs v hv))
    |>.append (LoopReads.uint32 (fun _ => rfl) (by rfl))

end TxHistoryPage

end Chronik
