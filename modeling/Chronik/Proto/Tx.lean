import Chronik.Proto.Slp

/-! # Transaction messages of `chronik.ts`

`OutPoint`, `BlockMetadata`, `TxInput`, `TxOutput` and `Tx`, in the shape of `Proto/Slp.lean`: the
interface, the initial message of `decode`, `encode`, the `switch` of the decode loop, and the
round trip of the encoding. A repeated field is decoded by `message.inputs.push(...)`, one element
per record, so its round trip keeps the elements and their order (`LoopReads.repeated`). -/

namespace Chronik
open Writer

/-! ### OutPoint -/

/-- The `OutPoint` interface. -/
structure OutPoint where
  txid : Bytes
  outIdx : Uint32
  deriving DecidableEq, Repr

/-- The initial message of `OutPoint.decode`: `baseOutPoint` and `txid = new Uint8Array()`. -/
def baseOutPoint : OutPoint := ⟨[], 0⟩

namespace OutPoint

/-- The writes of `OutPoint.encode`. -/
def encode (message : OutPoint) : Bytes :=
  bytesField 10 message.txid ++ uint32Field 16 message.outIdx

/-- The `switch (tag >>> 3)` of `OutPoint.decode`; an unknown field is skipped by its wire type
`tag & 7`. -/
def readField (tag : Nat) (message : OutPoint) : Act OutPoint :=
  match tag / 8 with
  | 1 => (fun txid => { message with txid }) <$> Act.bytes
  | 2 => (fun outIdx => { message with outIdx }) <$> Act.uint32
  | _ => (fun _ => message) <$> Act.skipType (tag % 8)

/-- The call `OutPoint.decode(input)`. -/
def decode (input : Bytes) : Except DecodeError OutPoint := Act.decode readField baseOutPoint input

/-- The call `OutPoint.decode(reader, reader.uint32())`. -/
def decodeNested : Act OutPoint := Act.nested readField baseOutPoint

/-- The `Uint8Array` of the message is shorter than `2 ^ 32` bytes. -/
structure LengthsFit (message : OutPoint) : Prop where
  txid : message.txid.length < 2 ^ 32

theorem loopReads_encode (message : OutPoint) (h : message.LengthsFit) :
    LoopReads readField (encode message) baseOutPoint message :=
  LoopReads.bytes (fun _ => rfl) (by rfl) h.txid
    |>.append (LoopReads.uint32 (fun _ => rfl) (by rfl))

end OutPoint

/-! ### BlockMetadata -/

/-- The `BlockMetadata` interface. -/
structure BlockMetadata where
  height : Int32
  hash : Bytes
  timestamp : Long
  deriving DecidableEq, Repr

/-- The initial message of `BlockMetadata.decode`: `baseBlockMetadata` and `hash = new Uint8Array()`. -/
def baseBlockMetadata : BlockMetadata := ⟨0, [], 0⟩

namespace BlockMetadata

/-- The writes of `BlockMetadata.encode`. -/
def encode (message : BlockMetadata) : Bytes :=
  int32Field 8 message.height ++ bytesField 18 message.hash ++ longField 24 message.timestamp

/-- The `switch (tag >>> 3)` of `BlockMetadata.decode`. -/
def readField (tag : Nat) (message : BlockMetadata) : Act BlockMetadata :=
  match tag / 8 with
  | 1 => (fun height => { message with height }) <$> Act.int32
  | 2 => (fun hash => { message with hash }) <$> Act.bytes
  | 3 => (fun timestamp => { message with timestamp }) <$> Act.int64
  | _ => (fun _ => message) <$> Act.skipType (tag % 8)

/-- The call `BlockMetadata.decode(input)`. -/
def decode (input : Bytes) : Except DecodeError BlockMetadata :=
  Act.decode readField baseBlockMetadata input

/-- The call `BlockMetadata.decode(reader, reader.uint32())`. -/
def decodeNested : Act BlockMetadata := Act.nested readField baseBlockMetadata

/-- The `Uint8Array` of the message is shorter than `2 ^ 32` bytes. -/
structure LengthsFit (message : BlockMetadata) : Prop where
  hash : message.hash.length < 2 ^ 32

theorem loopReads_encode (message : BlockMetadata) (h : message.LengthsFit) :
    LoopReads readField (encode message) baseBlockMetadata message :=
  LoopReads.int32 (fun _ => rfl) (by rfl)
    |>.append (LoopReads.bytes (fun _ => rfl) (by rfl) h.hash)
    |>.append (LoopReads.long (fun _ => rfl) (by rfl))

end BlockMetadata

/-! ### TxInput -/

/-- The `TxInput` interface. -/
structure TxInput where
  prevOut : Option OutPoint
  inputScript : Bytes
  outputScript : Bytes
  value : Long
  sequenceNo : Uint32
  slpBurn : Option SlpBurn
  slpToken : Option SlpToken
  deriving DecidableEq, Repr

/-- The initial message of `TxInput.decode`: `baseTxInput` and both scripts `new Uint8Array()`. -/
def baseTxInput : TxInput := ⟨none, [], [], 0, 0, none, none⟩

namespace TxInput

/-- The writes of `TxInput.encode`. -/
def encode (message : TxInput) : Bytes :=
  messageField 10 OutPoint.encode message.prevOut ++ bytesField 18 message.inputScript ++
    bytesField 26 message.outputScript ++ longField 32 message.value ++
    uint32Field 40 message.sequenceNo ++ messageField 50 SlpBurn.encode message.slpBurn ++
    messageField 58 SlpToken.encode message.slpToken

/-- The `switch (tag >>> 3)` of `TxInput.decode`. -/
def readField (tag : Nat) (message : TxInput) : Act TxInput :=
  match tag / 8 with
  | 1 => (fun prevOut => { message with prevOut := some prevOut }) <$> OutPoint.decodeNested
  | 2 => (fun inputScript => { message with inputScript }) <$> Act.bytes
  | 3 => (fun outputScript => { message with outputScript }) <$> Act.bytes
  | 4 => (fun value => { message with value }) <$> Act.int64
  | 5 => (fun sequenceNo => { message with sequenceNo }) <$> Act.uint32
  | 6 => (fun slpBurn => { message with slpBurn := some slpBurn }) <$> SlpBurn.decodeNested
  | 7 => (fun slpToken => { message with slpToken := some slpToken }) <$> SlpToken.decodeNested
  | _ => (fun _ => message) <$> Act.skipType (tag % 8)

/-- The call `TxInput.decode(input)`. -/
def decode (input : Bytes) : Except DecodeError TxInput := Act.decode readField baseTxInput input

/-- The call `TxInput.decode(reader, reader.uint32())`. -/
def decodeNested : Act TxInput := Act.nested readField baseTxInput

/-- The `Uint8Array`s of the message and its sub-messages are shorter than `2 ^ 32` bytes. -/
structure LengthsFit (message : TxInput) : Prop where
  prevOut : ∀ v ∈ message.prevOut, v.LengthsFit
  inputScript : message.inputScript.length < 2 ^ 32
  outputScript : message.outputScript.length < 2 ^ 32
  slpBurn : ∀ v ∈ message.slpBurn, v.LengthsFit

theorem loopReads_encode (message : TxInput) (h : message.LengthsFit) :
    LoopReads readField (encode message) baseTxInput message :=
  LoopReads.optional (fun s prevOut => { s with prevOut }) (fun _ => rfl) (by rfl)
      (fun v hv => OutPoint.loopReads_encode v (h.prevOut v hv))
    |>.append (LoopReads.bytes (fun _ => rfl) (by rfl) h.inputScript)
    |>.append (LoopReads.bytes (fun _ => rfl) (by rfl) h.outputScript)
    |>.append (LoopReads.long (fun _ => rfl) (by rfl))
    |>.append (LoopReads.uint32 (fun _ => rfl) (by rfl))
    |>.append (LoopReads.optional (fun s slpBurn => { s with slpBurn }) (fun _ => rfl) (by rfl)
      fun v hv => SlpBurn.loopReads_encode v (h.slpBurn v hv))
    |>.append (LoopReads.optional (fun s slpToken => { s with slpToken }) (fun _ => rfl) (by rfl)
      fun v _ => SlpToken.loopReads_encode v)

end TxInput

/-! ### TxOutput -/

/-- The `TxOutput` interface. -/
structure TxOutput where
  value : Long
  outputScript : Bytes
  slpToken : Option SlpToken
  spentBy : Option OutPoint
  deriving DecidableEq, Repr

/-- The initial message of `TxOutput.decode`: `baseTxOutput` and `outputScript = new Uint8Array()`. -/
def baseTxOutput : TxOutput := ⟨0, [], none, none⟩

namespace TxOutput

/-- The writes of `TxOutput.encode`. -/
def encode (message : TxOutput) : Bytes :=
  longField 8 message.value ++ bytesField 18 message.outputScript ++
    messageField 26 SlpToken.encode message.slpToken ++ messageField 34 OutPoint.encode message.spentBy

/-- The `switch (tag >>> 3)` of `TxOutput.decode`. -/
def readField (tag : Nat) (message : TxOutput) : Act TxOutput :=
  match tag / 8 with
  | 1 => (fun value => { message with value }) <$> Act.int64
  | 2 => (fun outputScript => { message with outputScript }) <$> Act.bytes
  | 3 => (fun slpToken => { message with slpToken := some slpToken }) <$> SlpToken.decodeNested
  | 4 => (fun spentBy => { message with spentBy := some spentBy }) <$> OutPoint.decodeNested
  | _ => (fun _ => message) <$> Act.skipType (tag % 8)

/-- The call `TxOutput.decode(input)`. -/
def decode (input : Bytes) : Except DecodeError TxOutput := Act.decode readField baseTxOutput input

/-- The call `TxOutput.decode(reader, reader.uint32())`. -/
def decodeNested : Act TxOutput := Act.nested readField baseTxOutput

/-- The `Uint8Array`s of the message and its sub-messages are shorter than `2 ^ 32` bytes. -/
structure LengthsFit (message : TxOutput) : Prop where
  outputScript : message.outputScript.length < 2 ^ 32
  spentBy : ∀ v ∈ message.spentBy, v.LengthsFit

theorem loopReads_encode (message : TxOutput) (h : message.LengthsFit) :
    LoopReads readField (encode message) baseTxOutput message :=
  LoopReads.long (fun _ => rfl) (by rfl)
    |>.append (LoopReads.bytes (fun _ => rfl) (by rfl) h.outputScript)
    |>.append (LoopReads.optional (fun s slpToken => { s with slpToken }) (fun _ => rfl) (by rfl)
      fun v _ => SlpToken.loopReads_encode v)
    |>.append (LoopReads.optional (fun s spentBy => { s with spentBy }) (fun _ => rfl) (by rfl)
      fun v hv => OutPoint.loopReads_encode v (h.spentBy v hv))

end TxOutput

/-! ### Tx -/

/-- The `Tx` interface; `network` is the enum `Network`. -/
structure Tx where
  txid : Bytes
  version : Int32
  inputs : List TxInput
  outputs : List TxOutput
  lockTime : Uint32
  slpTxData : Option SlpTxData
  slpErrorMsg : String
  block : Option BlockMetadata
  timeFirstSeen : Long
  network : Int32
  deriving DecidableEq, Repr

/-- The initial message of `Tx.decode`: `baseTx`, `inputs = []`, `outputs = []` and
`txid = new Uint8Array()`. -/
def baseTx : Tx := ⟨[], 0, [], [], 0, none, "", none, 0, 0⟩

namespace Tx

/-- The writes of `Tx.encode`. -/
def encode (message : Tx) : Bytes :=
  bytesField 10 message.txid ++ int32Field 16 message.version ++
    repeatedField 26 TxInput.encode message.inputs ++ repeatedField 34 TxOutput.encode message.outputs ++
    uint32Field 40 message.lockTime ++ messageField 50 SlpTxData.encode message.slpTxData ++
    stringField 58 message.slpErrorMsg ++ messageField 66 BlockMetadata.encode message.block ++
    longField 72 message.timeFirstSeen ++ int32Field 80 message.network

/-- The `switch (tag >>> 3)` of `Tx.decode`. -/
def readField (tag : Nat) (message : Tx) : Act Tx :=
  match tag / 8 with
  | 1 => (fun txid => { message with txid }) <$> Act.bytes
  | 2 => (fun version => { message with version }) <$> Act.int32
  | 3 => (fun input => { message with inputs := message.inputs ++ [input] }) <$> TxInput.decodeNested
  | 4 => (fun output => { message with outputs := message.outputs ++ [output] }) <$> TxOutput.decodeNested
  | 5 => (fun lockTime => { message with lockTime }) <$> Act.uint32
  | 6 => (fun slpTxData => { message with slpTxData := some slpTxData }) <$> SlpTxData.decodeNested
  | 7 => (fun slpErrorMsg => { message with slpErrorMsg }) <$> Act.string
  | 8 => (fun block => { message with block := some block }) <$> BlockMetadata.decodeNested
  | 9 => (fun timeFirstSeen => { message with timeFirstSeen }) <$> Act.int64
  | 10 => (fun network => { message with network }) <$> Act.int32
  | _ => (fun _ => message) <$> Act.skipType (tag % 8)

/-- The call `Tx.decode(input)`. -/
def decode (input : Bytes) : Except DecodeError Tx := Act.decode readField baseTx input

/-- The call `Tx.decode(reader, reader.uint32())`. -/
def decodeNested : Act Tx := Act.nested readField baseTx

/-- The `Uint8Array`s of the message and its sub-messages are shorter than `2 ^ 32` bytes. -/
structure LengthsFit (message : Tx) : Prop where
  txid : message.txid.length < 2 ^ 32
  inputs : ∀ v ∈ message.inputs, v.LengthsFit
  outputs : ∀ v ∈ message.outputs, v.LengthsFit
  slpTxData : ∀ v ∈ message.slpTxData, v.LengthsFit
  block : ∀ v ∈ message.block, v.LengthsFit

theorem loopReads_encode (message : Tx) (h : message.LengthsFit) :
    LoopReads readField (encode message) baseTx message :=
  LoopReads.bytes (fun _ => rfl) (by rfl) h.txid
    |>.append (LoopReads.int32 (fun _ => rfl) (by rfl))
    |>.append (LoopReads.repeated (fun s inputs => { s with inputs }) (fun _ _ => rfl) (by rfl)
      fun v hv => TxInput.loopReads_encode v (h.inputs v hv))
    |>.append (LoopReads.repeated (fun s outputs => { s with outputs }) (fun _ _ => rfl) (by rfl)
      fun v hv => TxOutput.loopReads_encode v (h.outputs v hv))
    |>.append (LoopReads.uint32 (fun _ => rfl) (by rfl))
    |>.append (LoopReads.optional (fun s slpTxData => { s with slpTxData }) (fun _ => rfl) (by rfl)
      fun v hv => SlpTxData.loopReads_encode v (h.slpTxData v hv))
    |>.append (LoopReads.string (fun _ => rfl) (by rfl))
    |>.append (LoopReads.optional (fun s block => { s with block }) (fun _ => rfl) (by rfl)
      fun v hv => BlockMetadata.loopReads_encode v (h.block v hv))
    |>.append (LoopReads.long (fun _ => rfl) (by rfl))
    |>.append (LoopReads.int32 (fun _ => rfl) (by rfl))

end Tx

end Chronik
