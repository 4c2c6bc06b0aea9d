import Chronik.Protobuf.RoundTrip

/-! # SLP messages of `chronik.ts`

`SlpToken`, `SlpBurn`, `SlpMeta`, `SlpGenesisInfo` and `SlpTxData`, each with its `encode`, the
initial message of its `decode` (`{ ...baseM }` and the `Uint8Array` fields `decode` sets), the
`switch` of its decode loop, and the round trip of its encoding (`loopReads_encode`).

Enum fields (`SlpTokenType`, `SlpTxType`) are read by `reader.int32() as any`, so they hold any
`int32`; the client's conversions reject the undeclared ones. -/

namespace Chronik
open Writer

/-! ### SlpToken -/

/-- The `SlpToken` interface. -/
structure SlpToken where
  amount : Long
  isMintBaton : Bool
  deriving DecidableEq, Repr

/-- The initial message of `SlpToken.decode`: `baseSlpToken`, `{ amount: Long.UZERO, isMintBaton: false }`. -/
def baseSlpToken : SlpToken := ⟨0, false⟩

namespace SlpToken

/-- The writes of `SlpToken.encode`. -/
def encode (message : SlpToken) : Bytes :=
  longField 8 message.amount ++ boolField 16 message.isMintBaton

/-- The `switch (tag >>> 3)` of `SlpToken.decode`; an unknown field is skipped by its wire type
`tag & 7`. -/
def readField (tag : Nat) (message : SlpToken) : Act SlpToken :=
  match tag / 8 with
  | 1 => (fun amount => { message with amount }) <$> Act.int64
  | 2 => (fun isMintBaton => { message with isMintBaton }) <$> Act.bool
  | _ => (fun _ => message) <$> Act.skipType (tag % 8)

/-- The call `SlpToken.decode(input)`. -/
def decode (input : Bytes) : Except DecodeError SlpToken := Act.decode readField baseSlpToken input

/-- The call `SlpToken.decode(reader, reader.uint32())`. -/
def decodeNested : Act SlpToken := Act.nested readField baseSlpToken

theorem loopReads_encode (message : SlpToken) :
    LoopReads readField (encode message) baseSlpToken message :=
  LoopReads.long (fun _ => rfl) (by rfl)
    |>.append (LoopReads.bool (fun _ => rfl) (by rfl))

end SlpToken

/-! ### SlpBurn -/

/-- The `SlpBurn` interface. -/
structure SlpBurn where
  token : Option SlpToken
  tokenId : Bytes
  deriving DecidableEq, Repr

/-- The initial message of `SlpBurn.decode`: `baseSlpBurn` and `tokenId = new Uint8Array()`. -/
def baseSlpBurn : SlpBurn := ⟨none, []⟩

namespace SlpBurn

/-- The writes of `SlpBurn.encode`. -/
def encode (message : SlpBurn) : Bytes :=
  messageField 10 SlpToken.encode message.token ++ bytesField 18 message.tokenId

/-- The `switch (tag >>> 3)` of `SlpBurn.decode`. -/
def readField (tag : Nat) (message : SlpBurn) : Act SlpBurn :=
  match tag / 8 with
  | 1 => (fun token => { message with token := some token }) <$> SlpToken.decodeNested
  | 2 => (fun tokenId => { message with tokenId }) <$> Act.bytes
  | _ => (fun _ => message) <$> Act.skipType (tag % 8)

/-- The call `SlpBurn.decode(input)`. -/
def decode (input : Bytes) : Except DecodeError SlpBurn := Act.decode readField baseSlpBurn input

/-- The call `SlpBurn.decode(reader, reader.uint32())`. -/
def decodeNested : Act SlpBurn := Act.nested readField baseSlpBurn

/-- The `Uint8Array`s of the message are shorter than `2 ^ 32` bytes, the lengths that
`Writer.bytes` writes as they are (`value.length >>> 0`). -/
structure LengthsFit (message : SlpBurn) : Prop where
  tokenId : message.tokenId.length < 2 ^ 32

theorem loopReads_encode (message : SlpBurn) (h : message.LengthsFit) :
    LoopReads readField (encode message) baseSlpBurn message :=
  LoopReads.optional (fun s token => { s with token }) (fun _ => rfl) (by rfl)
      (fun v _ => SlpToken.loopReads_encode v)
    |>.append (LoopReads.bytes (fun _ => rfl) (by rfl) h.tokenId)

end SlpBurn

/-! ### SlpMeta -/

/-- The `SlpMeta` interface; `tokenType` and `txType` are the enums `SlpTokenType` and `SlpTxType`. -/
structure SlpMeta where
  tokenType : Int32
  txType : Int32
  tokenId : Bytes
  groupTokenId : Bytes
  deriving DecidableEq, Repr

/-- The initial message of `SlpMeta.decode`: `baseSlpMeta` and both ids `new Uint8Array()`. -/
def baseSlpMeta : SlpMeta := ⟨0, 0, [], []⟩

namespace SlpMeta

/-- The writes of `SlpMeta.encode`. -/
def encode (message : SlpMeta) : Bytes :=
  int32Field 8 message.tokenType ++ int32Field 16 message.txType ++ bytesField 26 message.tokenId ++
    bytesField 34 message.groupTokenId

/-- The `switch (tag >>> 3)` of `SlpMeta.decode`. -/
def readField (tag : Nat) (message : SlpMeta) : Act SlpMeta :=
  match tag / 8 with
  | 1 => (fun tokenType => { message with tokenType }) <$> Act.int32
  | 2 => (fun txType => { message with txType }) <$> Act.int32
  | 3 => (fun tokenId => { message with tokenId }) <$> Act.bytes
  | 4 => (fun groupTokenId => { message with groupTokenId }) <$> Act.bytes
  | _ => (fun _ => message) <$> Act.skipType (tag % 8)

/-- The call `SlpMeta.decode(input)`. -/
def decode (input : Bytes) : Except DecodeError SlpMeta := Act.decode readField baseSlpMeta input

/-- The call `SlpMeta.decode(reader, reader.uint32())`. -/
def decodeNested : Act SlpMeta := Act.nested readField baseSlpMeta

/-- The `Uint8Array`s of the message are shorter than `2 ^ 32` bytes. -/
structure LengthsFit (message : SlpMeta) : Prop where
  tokenId : message.tokenId.length < 2 ^ 32
  groupTokenId : message.groupTokenId.length < 2 ^ 32

theorem loopReads_encode (message : SlpMeta) (h : message.LengthsFit) :
    LoopReads readField (encode message) baseSlpMeta message :=
  LoopReads.int32 (fun _ => rfl) (by rfl)
    |>.append (LoopReads.int32 (fun _ => rfl) (by rfl))
    |>.append (LoopReads.bytes (fun _ => rfl) (by rfl) h.tokenId)
    |>.append (LoopReads.bytes (fun _ => rfl) (by rfl) h.groupTokenId)

end SlpMeta

/-! ### SlpGenesisInfo -/

/-- The `SlpGenesisInfo` interface. -/
structure SlpGenesisInfo where
  tokenTicker : Bytes
  tokenName : Bytes
  tokenDocumentUrl : Bytes
  tokenDocumentHash : Bytes
  decimals : Uint32
  deriving DecidableEq, Repr

/-- The initial message of `SlpGenesisInfo.decode`: `baseSlpGenesisInfo` and four empty arrays. -/
def baseSlpGenesisInfo : SlpGenesisInfo := ⟨[], [], [], [], 0⟩

namespace SlpGenesisInfo

/-- The writes of `SlpGenesisInfo.encode`. -/
def encode (message : SlpGenesisInfo) : Bytes :=
  bytesField 10 message.tokenTicker ++ bytesField 18 message.tokenName ++
    bytesField 26 message.tokenDocumentUrl ++ bytesField 34 message.tokenDocumentHash ++
    uint32Field 40 message.decimals

/-- The `switch (tag >>> 3)` of `SlpGenesisInfo.decode`. -/
def readField (tag : Nat) (message : SlpGenesisInfo) : Act SlpGenesisInfo :=
  match tag / 8 with
  | 1 => (fun tokenTicker => { message with tokenTicker }) <$> Act.bytes
  | 2 => (fun tokenName => { message with tokenName }) <$> Act.bytes
  | 3 => (fun tokenDocumentUrl => { message with tokenDocumentUrl }) <$> Act.bytes
  | 4 => (fun tokenDocumentHash => { message with tokenDocumentHash }) <$> Act.bytes
  | 5 => (fun decimals => { message with decimals }) <$> Act.uint32
  | _ => (fun _ => message) <$> Act.skipType (tag % 8)

/-- The call `SlpGenesisInfo.decode(input)`. -/
def decode (input : Bytes) : Except DecodeError SlpGenesisInfo :=
  Act.decode readField baseSlpGenesisInfo input

/-- The call `SlpGenesisInfo.decode(reader, reader.uint32())`. -/
def decodeNested : Act SlpGenesisInfo := Act.nested readField baseSlpGenesisInfo

/-- The `Uint8Array`s of the message are shorter than `2 ^ 32` bytes. -/
structure LengthsFit (message : SlpGenesisInfo) : Prop where
  tokenTicker : message.tokenTicker.length < 2 ^ 32
  tokenName : message.tokenName.length < 2 ^ 32
  tokenDocumentUrl : message.tokenDocumentUrl.length < 2 ^ 32
  tokenDocumentHash : message.tokenDocumentHash.length < 2 ^ 32

theorem loopReads_encode (message : SlpGenesisInfo) (h : message.LengthsFit) :
    LoopReads readField (encode message) baseSlpGenesisInfo message :=
  LoopReads.bytes (fun _ => rfl) (by rfl) h.tokenTicker
    |>.append (LoopReads.bytes (fun _ => rfl) (by rfl) h.tokenName)
    |>.append (LoopReads.bytes (fun _ => rfl) (by rfl) h.tokenDocumentUrl)
    |>.append (LoopReads.bytes (fun _ => rfl) (by rfl) h.tokenDocumentHash)
    |>.append (LoopReads.uint32 (fun _ => rfl) (by rfl))

end SlpGenesisInfo

/-! ### SlpTxData -/

/-- The `SlpTxData` interface. -/
structure SlpTxData where
  slpMeta : Option SlpMeta
  genesisInfo : Option SlpGenesisInfo
  deriving DecidableEq, Repr

/-- The initial message of `SlpTxData.decode`: `baseSlpTxData`, both sub-messages `undefined`. -/
def baseSlpTxData : SlpTxData := ⟨none, none⟩

namespace SlpTxData

/-- The writes of `SlpTxData.encode`. -/
def encode (message : SlpTxData) : Bytes :=
  messageField 10 SlpMeta.encode message.slpMeta ++ messageField 18 SlpGenesisInfo.encode message.genesisInfo

/-- The `switch (tag >>> 3)` of `SlpTxData.decode`. -/
def readField (tag : Nat) (message : SlpTxData) : Act SlpTxData :=
  match tag / 8 with
  | 1 => (fun slpMeta => { message with slpMeta := some slpMeta }) <$> SlpMeta.decodeNested
  | 2 => (fun genesisInfo => { message with genesisInfo := some genesisInfo }) <$> SlpGenesisInfo.decodeNested
  | _ => (fun _ => message) <$> Act.skipType (tag % 8)

/-- The call `SlpTxData.decode(input)`. -/
def decode (input : Bytes) : Except DecodeError SlpTxData := Act.decode readField baseSlpTxData input

/-- The call `SlpTxData.decode(reader, reader.uint32())`. -/
def decodeNested : Act SlpTxData := Act.nested readField baseSlpTxData

/-- The `Uint8Array`s of the message and its sub-messages are shorter than `2 ^ 32` bytes. -/
structure LengthsFit (message : SlpTxData) : Prop where
  slpMeta : ∀ v ∈ message.slpMeta, v.LengthsFit
  genesisInfo : ∀ v ∈ message.genesisInfo, v.LengthsFit

theorem loopReads_encode (message : SlpTxData) (h : message.LengthsFit) :
    LoopReads readField (encode message) baseSlpTxData message :=
  LoopReads.optional (fun s slpMeta => { s with slpMeta }) (fun _ => rfl) (by rfl)
      (fun v hv => SlpMeta.loopReads_encode v (h.slpMeta v hv))
    |>.append (LoopReads.optional (fun s genesisInfo => { s with genesisInfo }) (fun _ => rfl) (by rfl)
      (fun v hv => SlpGenesisInfo.loopReads_encode v (h.genesisInfo v hv)))

end SlpTxData

end Chronik
