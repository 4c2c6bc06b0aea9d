import Chronik.Proto.Codec

/-! # What the decoders accept

Each decode loop switches on the field number `tag >>> 3` alone: a declared field is read by its
own reader whatever wire type the tag carries, any other field is skipped by `skipType(tag & 7)`,
and a nested `decode` stops at the first record that starts at or past its end, wherever that
record ends.

* `decode_accepts_unknown_fields`: every decoder accepts the encoding of a message followed by
  records of field numbers it does not declare, well formed for their wire types, and returns the
  message.
* `decode_accepts_malformed`: a decoder also returns on bytes outside the grammar: a declared field
  under another wire type, and a sub-message whose last field runs past its declared length.
* `decode_truncated_tag`: every decoder throws on an encoding followed by the start of a tag that
  the input ends inside. -/

namespace Chronik
open Writer

/-- The field numbers of the `switch` of each decode loop. -/
def MsgType.fields : MsgType → List Nat
  | .tx => [1, 2, 3, 4, 5, 6, 7, 8, 9, 10] | .txInput => [1, 2, 3, 4, 5, 6, 7]
  | .txOutput => [1, 2, 3, 4] | .outPoint => [1, 2]
  | .blockInfo => [1, 2, 3, 4, 5, 6, 7, 8, 9, 10, 11, 12, 13] | .blockMetadata => [1, 2, 3]
  | .block => [1, 2] | .blocks => [1] | .utxo => [1, 2, 3, 5, 6, 7, 9] | .scriptUtxos => [1, 2]
  | .utxos => [1] | .txHistoryPage => [1, 2] | .slpTxData => [1, 2] | .slpMeta => [1, 2, 3, 4]
  | .slpToken => [1, 2] | .slpBurn => [1, 2] | .slpGenesisInfo => [1, 2, 3, 4, 5]
  | .validateUtxoRequest => [1] | .validateUtxoResponse => [1] | .utxoState => [1, 2, 3]
  | .broadcastTxRequest => [1, 2] | .broadcastTxResponse => [1] | .subscription => [1, 2, 3]
  | .subscribeMsg => [1, 2, 3, 4, 5] | .msgAddedToMempool => [1] | .msgRemovedFromMempool => [1]
  | .msgConfirmed => [1] | .msgReorg => [1] | .error => [1, 2, 3]

/-- A field number a loop does not declare falls to its `default` case: `skipType(tag & 7)`. -/
theorem readField_undeclared (t : MsgType) (tag : Nat) (s : t.Message) (h : tag / 8 ∉ t.fields) :
    t.readField tag s = (fun _ => s) <$> Act.skipType (tag % 8) := by
  cases t <;> simp only [MsgType.readField] <;>
    (first | rw [Tx.readField] | rw [TxInput.readField] | rw [TxOutput.readField] |
      rw [OutPoint.readField] | rw [BlockInfo.readField] | rw [BlockMetadata.readField] |
      rw [Block.readField] | rw [Blocks.readField] | rw [Utxo.readField] | rw [ScriptUtxos.readField] |
      rw [Utxos.readField] | rw [TxHistoryPage.readField] | rw [SlpTxData.readField] |
      rw [SlpMeta.readField] | rw [SlpToken.readField] | rw [SlpBurn.readField] |
      rw [SlpGenesisInfo.readField] | rw [ValidateUtxoRequest.readField] |
      rw [ValidateUtxoResponse.readField] | rw [UtxoState.readField] |
      rw [BroadcastTxRequest.readField] | rw [TxidMsg.readField] | rw [Subscription.readField] |
      rw [SubscribeMsg.readField] | rw [Error.readField]) <;>
    -- a declared case of the switch contradicts h; the default case is the statement
    split <;> first | (rename_i heq; rw [heq] at h; exact absurd (by decide) h) | rfl

/-- A record of a field number a message does not declare, well formed for its wire type: a
varint, eight bytes, a length-delimited payload, or four bytes. -/
inductive UnknownRecord where
  | varint (fieldNumber value : Nat)
  | fixed64 (fieldNumber : Nat) (payload : Bytes) (h : payload.length = 8)
  | delimited (fieldNumber : Nat) (payload : Bytes) (h : payload.length < 2 ^ 32)
  | fixed32 (fieldNumber : Nat) (payload : Bytes) (h : payload.length = 4)

namespace UnknownRecord

def fieldNumber : UnknownRecord → Nat
  | varint n _ | fixed64 n _ _ | delimited n _ _ | fixed32 n _ _ => n

def wireType : UnknownRecord → Nat
  | varint .. => 0 | fixed64 .. => 1 | delimited .. => 2 | fixed32 .. => 5

/-- The bytes after the tag. -/
def payload : UnknownRecord → Bytes
  | varint _ value => Writer.varint value
  | fixed64 _ payload _ | fixed32 _ payload _ => payload
  | delimited _ payload _ => Writer.varint payload.length ++ payload

/-- The tag `fieldNumber << 3 | wireType`, then the payload. -/
def encode (r : UnknownRecord) : Bytes := Writer.uint32 (r.fieldNumber * 8 + r.wireType) ++ r.payload

theorem wireType_lt (r : UnknownRecord) : r.wireType < 8 := by
  cases r <;> simp [wireType]

theorem reads_payload (r : UnknownRecord) : Reads (Act.skipType r.wireType) r.payload () := by
  cases r with
  | varint _ value => exact reads_skipType_varint value
  | fixed64 _ _ h => exact reads_skipType_fixed (.inl ⟨rfl, h⟩)
  | delimited _ _ h => exact reads_skipType_delimited h
  | fixed32 _ _ h => exact reads_skipType_fixed (.inr ⟨rfl, h⟩)

end UnknownRecord

/-- Every record of a field number the loop does not declare is skipped, leaving the message as
it is. -/
theorem loopReads_unknown (t : MsgType) (m : t.Message) :
    ∀ rs : List UnknownRecord, (∀ r ∈ rs, r.fieldNumber < 2 ^ 29 ∧ r.fieldNumber ∉ t.fields) →
      LoopReads t.readField (rs.flatMap UnknownRecord.encode) m m
  | [], _ => LoopReads.nil m
  | r :: rs, h => by
    obtain ⟨hr, hu⟩ := h r (List.mem_cons_self r rs)
    have hw := r.wireType_lt
    have htag : (r.fieldNumber * 8 + r.wireType) % 2 ^ 32 = r.fieldNumber * 8 + r.wireType :=
      Nat.mod_eq_of_lt (by omega)
    refine LoopReads.append (LoopReads.record fun _ => ?_)
      (loopReads_unknown t m rs fun r' hr' => h r' (List.mem_cons_of_mem r hr'))
    rw [htag, readField_undeclared t _ m (by rwa [show (r.fieldNumber * 8 + r.wireType) / 8 = r.fieldNumber by omega]),
      show (r.fieldNumber * 8 + r.wireType) % 8 = r.wireType by omega]
    exact r.reads_payload.map _

/-- Every decoder accepts the encoding of a message followed by records of field numbers it does
not declare, each well formed for its wire type, and returns the message: the grammar it accepts
holds every encoding with unknown fields. -/
theorem decode_accepts_unknown_fields (t : MsgType) (m : t.Message) (hfit : t.LengthsFit m)
    (rs : List UnknownRecord) (hrs : ∀ r ∈ rs, r.fieldNumber < 2 ^ 29 ∧ r.fieldNumber ∉ t.fields)
    (hlen : (t.encode m ++ rs.flatMap UnknownRecord.encode).length < 2 ^ 32) :
    t.decode (t.encode m ++ rs.flatMap UnknownRecord.encode) = .ok m := by
  rw [MsgType.decode_eq]
  exact ((t.loopReads_encode m hfit).append (loopReads_unknown t m rs hrs)).decode hlen

/-- A transaction with `version` 5 and a record of the unknown field 11 holding the varint 300
decodes to the transaction. -/
theorem decode_tx_with_unknown_varint :
    MsgType.tx.decode (MsgType.tx.encode ({ baseTx with version := 5 } : Tx) ++ [UnknownRecord.varint 11 300].flatMap
      UnknownRecord.encode) = .ok ({ baseTx with version := 5 } : Tx) :=
  decode_accepts_unknown_fields .tx { baseTx with version := 5 } (⟨by decide, by simp [baseTx],
    by simp [baseTx], by simp [baseTx], by simp [baseTx]⟩ : Tx.LengthsFit _) [.varint 11 300]
    (by decide) (by decide)

/-- `Tx.decode` returns on two inputs outside the grammar. `[0x12, 0x05]` is field 2, `version`,
an `int32`, under wire type 2 (a length-delimited payload of 5 bytes, which are missing): it is
read as `version = 5`, which the encoder writes `[0x10, 0x05]`. `[0x1a, 0x01, 0x12, 0x00]` is an
input of declared length 1 whose `inputScript` field ends at byte 4, past the input's end at byte
3: it is read as one empty input, which the encoder writes `[0x1a, 0x00]`. -/
theorem decode_accepts_malformed :
    Tx.decode [0x12, 0x05] = .ok { baseTx with version := 5 } ∧
    Tx.encode { baseTx with version := 5 } = [0x10, 0x05] ∧
    Tx.decode [0x1a, 0x01, 0x12, 0x00] = .ok { baseTx with inputs := [baseTxInput] } ∧
    Tx.encode { baseTx with inputs := [baseTxInput] } = [0x1a, 0x00] :=
  ⟨rfl, rfl, rfl, rfl⟩

/-! ### A truncated tag -/

theorem more_append_of_ge {w tail : Bytes} (hmore : ∀ b ∈ tail, 128 ≤ b.toNat) :
    ∀ j, w.length ≤ j → Reader.more (w ++ tail) j = true := by
  intro j hj
  unfold Reader.more
  rw [List.getElem?_append_right hj]
  split
  · rename_i b hb
    exact decide_eq_true (hmore b (List.getElem?_mem hb))
  · rfl

/-- Every decoder throws on the encoding of a message followed by one to nine bytes that all carry
the continuation bit: the tag it starts to read there never ends, and protobufjs's `uint32` throws
`index out of range: len + 10 > len`. -/
theorem decode_truncated_tag (t : MsgType) (m : t.Message) (hfit : t.LengthsFit m) (tail : Bytes)
    (htail : tail ≠ []) (hshort : tail.length < 10) (hmore : ∀ b ∈ tail, 128 ≤ b.toNat)
    (hlen : (t.encode m).length < 2 ^ 32) :
    t.decode (t.encode m ++ tail) =
      .error (.indexOutOfRange (t.encode m ++ tail).length 10 (t.encode m ++ tail).length) := by
  rw [MsgType.decode_eq]
  refine (t.loopReads_encode m hfit).decode_error hlen htail ?_
  rw [Act.step, Reader.uint32_truncated (more_append_of_ge hmore) (by simp only [List.length_append]; omega)]

/-- The token `⟨5, true⟩`, four bytes, followed by `0x80`. -/
theorem decode_truncated_tag_slpToken :
    MsgType.slpToken.decode (MsgType.slpToken.encode (⟨5, true⟩ : SlpToken) ++ [0x80]) =
      .error (.indexOutOfRange 5 10 5) :=
  decode_truncated_tag .slpToken ⟨5, true⟩ trivial [0x80] (by decide) (by decide) (by decide) (by decide)

end Chronik
