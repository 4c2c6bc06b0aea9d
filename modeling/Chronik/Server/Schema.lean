import Chronik.Proto.Utxo

/-! # The server's schema against the client's decoders

`chronik.proto`, compiled by `chronik-http` with prost, declares the messages the server writes.
Its declarations of `Tx`, `TxInput`, `TxOutput`, `OutPoint`, `BlockMetadata`, `SlpTxData`,
`SlpMeta`, `SlpToken`, `SlpBurn`, `SlpGenesisInfo`, `TxHistoryPage`, `ValidateUtxoRequest`,
`ValidateUtxoResponse`, `UtxoState` and `Error` have the fields of `chronik.ts`, with the same
numbers and wire types, so the canonical encoding of such a value is the client's `encode` of it and
the round trip of `Proto/Codec.lean` reads it back.

`Utxo` and `Utxos` differ. The server's `Utxo` has `BlockMetadata block = 2`, a sub-message, where
the client reads `int32 blockHeight = 2`, and the server's `Utxos` is `repeated Utxo utxos = 1`,
where the client reads `repeated ScriptUtxos scriptUtxos = 1`. The client then reads the length of
`block` as `blockHeight` and the fields inside it as fields of `Utxo`
(`server_utxo_misread`). -/

namespace Chronik
namespace Server
open Writer

/-- The server's `message Utxo`; its sub-messages are declared as in `chronik.ts`. -/
structure Utxo where
  outpoint : Option OutPoint
  block : Option BlockMetadata
  isCoinbase : Bool
  outputScript : Bytes
  value : Long
  slpMeta : Option SlpMeta
  slpToken : Option SlpToken
  timeFirstSeen : Long
  network : Int32
  deriving DecidableEq, Repr

/-- The server's `Utxo` with every field at its default. -/
def baseUtxo : Utxo := ⟨none, none, false, [], 0, none, none, 0, 0⟩

/-- The canonical proto3 encoding prost writes: fields in order of their numbers, each scalar only
when it is not its default, each sub-message when it is present. -/
def Utxo.encode (message : Utxo) : Bytes :=
  messageField 10 OutPoint.encode message.outpoint ++ messageField 18 BlockMetadata.encode message.block ++
    boolField 24 message.isCoinbase ++ bytesField 34 message.outputScript ++ longField 40 message.value ++
    messageField 50 SlpMeta.encode message.slpMeta ++ messageField 58 SlpToken.encode message.slpToken ++
    longField 64 message.timeFirstSeen ++ int32Field 72 message.network

/-- The `Uint8Array`s of a server utxo are shorter than `2 ^ 32` bytes. -/
structure Utxo.LengthsFit (message : Utxo) : Prop where
  outpoint : ∀ v ∈ message.outpoint, v.LengthsFit
  outputScript : message.outputScript.length < 2 ^ 32
  slpMeta : ∀ v ∈ message.slpMeta, v.LengthsFit

/-- The client's `Utxo` holding the fields a server utxo shares with it by number and wire type. -/
def Utxo.toClient (u : Utxo) : Chronik.Utxo :=
  ⟨u.outpoint, 0, u.isCoinbase, u.value, u.slpMeta, u.slpToken, u.network⟩

/-- The server's `message Utxos`. -/
structure Utxos where
  utxos : List Utxo
  deriving DecidableEq, Repr

/-- The canonical encoding of `Utxos`: one record per utxo, in order. -/
def Utxos.encode (message : Utxos) : Bytes := repeatedField 10 Utxo.encode message.utxos

end Server

/-- The client reads a server utxo without a block (an unconfirmed one) as the server wrote it:
every field the two declarations share is restored, and the server's `outputScript` and
`timeFirstSeen`, fields 4 and 8 the client does not declare, are skipped by their wire types. -/
theorem decode_server_utxo_without_block (u : Server.Utxo) (hblock : u.block = none) (hfit : u.LengthsFit)
    (hlen : (Server.Utxo.encode u).length < 2 ^ 32) : Utxo.decode (Server.Utxo.encode u) = .ok u.toClient := by
  obtain ⟨outpoint, block, isCoinbase, outputScript, value, slpMeta, slpToken, timeFirstSeen, network⟩ := u
  cases hblock
  refine LoopReads.decode ?_ hlen
  exact LoopReads.optional (fun s outpoint => { s with outpoint }) (fun _ => rfl) (by rfl)
      (fun v hv => OutPoint.loopReads_encode v (hfit.outpoint v hv))
    |>.append (LoopReads.nil _)
    |>.append (LoopReads.bool (fun _ => rfl) (by rfl))
    |>.append (LoopReads.skipped (fun _ => rfl) fun _ => reads_skipType_bytes hfit.outputScript)
    |>.append (LoopReads.long (fun _ => rfl) (by rfl))
    |>.append (LoopReads.optional (fun s slpMeta => { s with slpMeta }) (fun _ => rfl) (by rfl)
      fun v hv => SlpMeta.loopReads_encode v (hfit.slpMeta v hv))
    |>.append (LoopReads.optional (fun s slpToken => { s with slpToken }) (fun _ => rfl) (by rfl)
      fun v _ => SlpToken.loopReads_encode v)
    |>.append (LoopReads.skipped (fun _ => rfl) fun _ => reads_skipType_varint timeFirstSeen.val)
    |>.append (LoopReads.int32 (fun _ => rfl) (by rfl))

/-- An unconfirmed coinbase utxo with output script `51` and first-seen time 5. -/
def unconfirmedUtxo : Server.Utxo :=
  { Server.baseUtxo with isCoinbase := true, outputScript := [0x51], timeFirstSeen := 5 }

theorem decode_unconfirmed_utxo :
    Utxo.decode (Server.Utxo.encode unconfirmedUtxo) = .ok unconfirmedUtxo.toClient :=
  decode_server_utxo_without_block unconfirmedUtxo rfl
    ⟨by simp [unconfirmedUtxo, Server.baseUtxo], by decide, by simp [unconfirmedUtxo, Server.baseUtxo]⟩ (by decide)

/-- A confirmed, non-coinbase utxo of the server: its block has timestamp `1`. -/
def confirmedUtxo : Server.Utxo := { Server.baseUtxo with block := some { baseBlockMetadata with timestamp := 1 } }

/-- The server's `Utxos` holding one utxo whose outpoint has txid `07`. -/
def oneUtxo : Server.Utxos := ⟨[{ Server.baseUtxo with outpoint := some ⟨[7], 0⟩ }]⟩

/-- The client's decoders misread what the server writes for `Utxo` and `Utxos`: the length of the
`block` of `confirmedUtxo` becomes `blockHeight` and its `timestamp` field becomes `isCoinbase`,
and the outpoint of the utxo of `oneUtxo` becomes the `outputScript` of a `ScriptUtxos` with no
utxos. -/
theorem server_utxo_misread :
    Server.Utxo.encode confirmedUtxo = [0x12, 0x02, 0x18, 0x01] ∧
    Utxo.decode (Server.Utxo.encode confirmedUtxo) = .ok { baseUtxo with blockHeight := 2, isCoinbase := true } ∧
    confirmedUtxo.isCoinbase = false ∧
    Server.Utxos.encode oneUtxo = [0x0a, 0x05, 0x0a, 0x03, 0x0a, 0x01, 0x07] ∧
    Utxos.decode (Server.Utxos.encode oneUtxo) = .ok ⟨[⟨[0x0a, 0x01, 0x07], []⟩]⟩ :=
  ⟨rfl, rfl, rfl, rfl, rfl⟩

end Chronik
