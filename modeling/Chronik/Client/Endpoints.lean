import Chronik.Client.Convert
import Chronik.Proto.Ws

/-! # The calls of `ChronikClient`

The constructor accepts a URL with the scheme `https://` or `http://` that does not end with `/`,
and derives the address of the WebSocket endpoints by the scheme `wss://` or `ws://`
(`chronikClient_new_wsUrl`).

Each call of `ChronikClient` and `ScriptEndpoint` fetches a body with `_get` or `_post`, which
throw through `ensureResponseErrorThrown` on a status other than 200, and decodes it. The HTTP
exchange itself is not modelled: a call is a function of the `Response` it receives (and, for
`validateUtxos`, of the request it builds). Heights and page numbers are natural numbers, rendered
in the path as their decimal digits. A call throws what the decoder, the conversion or `fromHexRev`
throws (`ClientError`). On a 200 response whose body is the encoding of a value, each call goes on
with that value (`calls_read_encoded`); on another status whose body is the encoding of an `Error`,
each call throws the text `ensureResponseErrorThrown` builds from it (`calls_throw_server_error`).

The client renders txids in display order, `toHexRev`, and `validateUtxos` reads them back with
`fromHexRev`: for a transaction's own txid, its inputs' `prevOut` and a utxo's `outpoint`, the
request carries the wire bytes the server sent (`validateUtxos_sends_wire_txids`). An output's
`spentBy` is rendered with `toHex` (`convertToTxOutput`), so the same round trip sends its txid
reversed (`validateUtxosRequest_spentBy`, `spentBy_txid_sent_reversed`). -/

namespace Chronik
open Hex

/-- What a call of the client throws: an `Error` with its message, what protobufjs's reader throws,
or what `fromHexRev` throws on a string that is not hex. -/
inductive ClientError where
  | error (msg : String)
  | decode (e : DecodeError)
  | invalidHex
  deriving DecidableEq, Repr

/-- The parts of an `AxiosResponse` the client reads. -/
structure Response where
  status : Nat
  data : Bytes
  deriving DecidableEq, Repr

/-- The call `ensureResponseErrorThrown(response, path)`: on a status other than 200 the body is an
`Error`, rethrown with the path. -/
def ensureResponseErrorThrown (response : Response) (path : String) : Except ClientError Unit :=
  if response.status ≠ 200 then do
    let error ← (Error.decode response.data).mapError .decode
    throw (.error ("Failed getting " ++ path ++ " (" ++ error.errorCode ++ "): " ++ error.msg))
  else pure ()

/-- The body `_get(url, path)` and `_post(url, path, data)` return for a response. -/
def responseBody (response : Response) (path : String) : Except ClientError Bytes := do
  ensureResponseErrorThrown response path
  pure response.data

theorem responseBody_ok (response : Response) (path : String) (h : response.status = 200) :
    responseBody response path = .ok response.data := by
  rw [responseBody, ensureResponseErrorThrown, if_neg (not_not.mpr h)]
  rfl

/-- A response with another status never reaches the decoder of the call: the call throws the
server's `Error`, or what decoding it throws. -/
theorem responseBody_error (response : Response) (path : String) (h : response.status ≠ 200) :
    responseBody response path =
      match Error.decode response.data with
      | .ok error => .error (.error ("Failed getting " ++ path ++ " (" ++ error.errorCode ++ "): " ++ error.msg))
      | .error e => .error (.decode e) := by
  simp only [responseBody, ensureResponseErrorThrown, if_pos h]
  cases Error.decode response.data <;> rfl

/-- The element function of `outpoints.map` in `validateUtxos`: the txid read back by `fromHexRev`,
which throws on a string that is not hex. -/
def toProtoOutPoint (outpoint : Client.OutPoint) : Except ClientError OutPoint :=
  match fromHexRev outpoint.txid with
  | some txid => pure { txid, outIdx := outpoint.outIdx }
  | none => throw .invalidHex

/-! ### The client -/

/-- The fields of a `ChronikClient`: `_url`, and `_wsUrl`, the address of its WebSocket
endpoints. -/
structure ChronikClient where
  url : String
  wsUrl : String
  deriving DecidableEq, Repr

/-- The constructor `new ChronikClient(url)`. `url.endsWith("/")`, `url.startsWith(prefix)` and
`url.substr(prefix.length)` are taken on the characters: the prefixes are ASCII, one UTF-16 code
unit a character. -/
def ChronikClient.new (url : String) : Except String ChronikClient :=
  if "/".data.isSuffixOf url.data then throw ("`url` cannot end with '/', got: " ++ url)
  else if "https://".data.isPrefixOf url.data then pure ⟨url, "wss://" ++ ⟨url.data.drop "https://".length⟩⟩
  else if "http://".data.isPrefixOf url.data then pure ⟨url, "ws://" ++ ⟨url.data.drop "http://".length⟩⟩
  else throw ("`url` must start with 'https://' or 'http://', got: " ++ url)

namespace ChronikClient

/-- The call `block(hashOrHeight)`: `proto.Block.decode(data)`, then `convertToBlock`. -/
def block (hashOrHeight : String) (response : Response) : Except ClientError Client.Block := do
  let data ← responseBody response ("/block/" ++ hashOrHeight)
  let block ← (Block.decode data).mapError .decode
  (convertToBlock block).mapError .error

/-- The call `blocks(startHeight, endHeight)`. -/
def blocks (startHeight endHeight : Nat) (response : Response) :
    Except ClientError (List Client.BlockInfo) := do
  let data ← responseBody response ("/blocks/" ++ toString startHeight ++ "/" ++ toString endHeight)
  let blocks ← (Blocks.decode data).mapError .decode
  pure (blocks.blocks.map convertToBlockInfo)

/-- The call `tx(txid)`. -/
def tx (txid : String) (response : Response) : Except ClientError Client.Tx := do
  let data ← responseBody response ("/tx/" ++ txid)
  let tx ← (Tx.decode data).mapError .decode
  (convertToTx tx).mapError .error

/-- The body `validateUtxos(outpoints)` posts. -/
def validateUtxosRequest (outpoints : List Client.OutPoint) : Except ClientError Bytes := do
  let outpoints ← outpoints.mapM toProtoOutPoint
  pure (ValidateUtxoRequest.encode ⟨outpoints⟩)

/-- The result of `validateUtxos(outpoints)` on the response to its request. -/
def validateUtxos (response : Response) :
    Except ClientError (List (Int32 × Bool × Client.UtxoStateVariant)) := do
  let data ← responseBody response "/validate-utxos"
  let validationStates ← (ValidateUtxoResponse.decode data).mapError .decode
  validationStates.utxoStates.mapM fun state => do
    let variant ← (convertToUtxoStateVariant state.state).mapError .error
    pure (state.height, state.isConfirmed, variant)

end ChronikClient

/-- The query of `ScriptEndpoint.history(page, pageSize)`. -/
def historyQuery (page pageSize : Option Nat) : String :=
  match page, pageSize with
  | some page, some pageSize => "?page=" ++ toString page ++ "&page_size=" ++ toString pageSize
  | some page, none => "?page=" ++ toString page
  | none, some pageSize => "?page_size=" ++ toString pageSize
  | none, none => ""

/-- The call `ScriptEndpoint.history(page, pageSize)` of the endpoint for a script. -/
def ScriptEndpoint.history (scriptType scriptPayload : String) (page pageSize : Option Nat)
    (response : Response) : Except ClientError (List Client.Tx × Uint32) := do
  let data ← responseBody response
    ("/script/" ++ scriptType ++ "/" ++ scriptPayload ++ "/history" ++ historyQuery page pageSize)
  let historyPage ← (TxHistoryPage.decode data).mapError .decode
  let txs ← (historyPage.txs.mapM convertToTx).mapError .error
  pure (txs, historyPage.numPages)

/-- The call `ScriptEndpoint.utxos()`: each group's output script and its converted utxos. -/
def ScriptEndpoint.utxos (scriptType scriptPayload : String) (response : Response) :
    Except ClientError (List (String × List Client.Utxo)) := do
  let data ← responseBody response ("/script/" ++ scriptType ++ "/" ++ scriptPayload ++ "/utxos")
  let utxos ← (Utxos.decode data).mapError .decode
  utxos.scriptUtxos.mapM fun scriptUtxos => do
    let converted ← (scriptUtxos.utxos.mapM convertToUtxo).mapError .error
    pure (toHex scriptUtxos.outputScript, converted)

/-! ### Calls on the server's replies -/

theorem except_ok_bind {ε α β : Type} (a : α) (f : α → Except ε β) : (Except.ok a >>= f) = f a := rfl

/-- A body read back by the decoder of its message. -/
theorem mapError_decode_encode {M : Type} {field : Nat → M → Act M} {base m : M} {w : Bytes}
    (h : LoopReads field w base m) (hw : w.length < 2 ^ 32) :
    (Act.decode field base w).mapError ClientError.decode = .ok m := by
  rw [h.decode hw]; rfl

/-- A 200 response: the body goes to the decoder as it is. -/
theorem responseBody_200 (data : Bytes) (path : String) : responseBody ⟨200, data⟩ path = .ok data :=
  responseBody_ok _ path rfl

/-- A response with another status whose body is the encoding of an `Error`: the text the client
throws names the path and the error's code and message. -/
theorem responseBody_server_error {status : Nat} (hs : status ≠ 200) (e : Error)
    (hlen : (Error.encode e).length < 2 ^ 32) (path : String) :
    responseBody ⟨status, Error.encode e⟩ path =
      .error (.error ("Failed getting " ++ path ++ " (" ++ e.errorCode ++ "): " ++ e.msg)) := by
  rw [responseBody_error _ _ hs, show Error.decode (Error.encode e) = .ok e from (e.loopReads_encode).decode hlen]

/-- Every call on a 200 response whose body is the encoding of a proto value, its `Uint8Array`s and
its whole length under `2 ^ 32` bytes, goes on with that value itself: what it returns is what the
rest of the call computes from the value the server encoded. -/
theorem calls_read_encoded :
    (∀ hashOrHeight (m : Block), m.LengthsFit → (Block.encode m).length < 2 ^ 32 →
      ChronikClient.block hashOrHeight ⟨200, Block.encode m⟩ = (convertToBlock m).mapError .error) ∧
    (∀ startHeight endHeight (m : Blocks), m.LengthsFit → (Blocks.encode m).length < 2 ^ 32 →
      ChronikClient.blocks startHeight endHeight ⟨200, Blocks.encode m⟩ = .ok (m.blocks.map convertToBlockInfo)) ∧
    (∀ txid (m : Tx), m.LengthsFit → (Tx.encode m).length < 2 ^ 32 →
      ChronikClient.tx txid ⟨200, Tx.encode m⟩ = (convertToTx m).mapError .error) ∧
    (∀ (m : ValidateUtxoResponse), (ValidateUtxoResponse.encode m).length < 2 ^ 32 →
      ChronikClient.validateUtxos ⟨200, ValidateUtxoResponse.encode m⟩ =
        m.utxoStates.mapM fun state => do
          let variant ← (convertToUtxoStateVariant state.state).mapError .error
          pure (state.height, state.isConfirmed, variant)) ∧
    (∀ scriptType scriptPayload page pageSize (m : TxHistoryPage), m.LengthsFit →
      (TxHistoryPage.encode m).length < 2 ^ 32 →
      ScriptEndpoint.history scriptType scriptPayload page pageSize ⟨200, TxHistoryPage.encode m⟩ = do
        let txs ← (m.txs.mapM convertToTx).mapError .error
        pure (txs, m.numPages)) ∧
    (∀ scriptType scriptPayload (m : Utxos), m.LengthsFit → (Utxos.encode m).length < 2 ^ 32 →
      ScriptEndpoint.utxos scriptType scriptPayload ⟨200, Utxos.encode m⟩ =
        m.scriptUtxos.mapM fun scriptUtxos => do
          let converted ← (scriptUtxos.utxos.mapM convertToUtxo).mapError .error
          pure (toHex scriptUtxos.outputScript, converted)) := by
  refine ⟨fun _ m h hw => ?_, fun _ _ m h hw => ?_, fun _ m h hw => ?_, fun m hw => ?_,
    fun _ _ _ _ m h hw => ?_, fun _ _ m h hw => ?_⟩
  · simp only [ChronikClient.block, responseBody_200, except_ok_bind, Block.decode,
      mapError_decode_encode (m.loopReads_encode h) hw]
  · simp only [ChronikClient.blocks, responseBody_200, except_ok_bind, Blocks.decode,
      mapError_decode_encode (m.loopReads_encode h) hw]
    rfl
  · simp only [ChronikClient.tx, responseBody_200, except_ok_bind, Tx.decode,
      mapError_decode_encode (m.loopReads_encode h) hw]
  · simp only [ChronikClient.validateUtxos, responseBody_200, except_ok_bind, ValidateUtxoResponse.decode,
      mapError_decode_encode m.loopReads_encode hw]
  · simp only [ScriptEndpoint.history, responseBody_200, except_ok_bind, TxHistoryPage.decode,
      mapError_decode_encode (m.loopReads_encode h) hw]
  · simp only [ScriptEndpoint.utxos, responseBody_200, except_ok_bind, Utxos.decode,
      mapError_decode_encode (m.loopReads_encode h) hw]

/-- A 200 response carrying the encoding of a transaction with txid `01 02`: `tx` returns its
conversion. -/
theorem tx_reads_encoded_body :
    ChronikClient.tx "0201" ⟨200, Tx.encode { baseTx with txid := [1, 2] }⟩ =
      (convertToTx { baseTx with txid := [1, 2] }).mapError .error :=
  calls_read_encoded.2.2.1 "0201" { baseTx with txid := [1, 2] }
    ⟨by decide, by simp [baseTx], by simp [baseTx], by simp [baseTx], by simp [baseTx]⟩ (by decide)

/-- Every call on a response with another status whose body is the encoding of an `Error` throws
`Failed getting <path> (<errorCode>): <msg>`, with the path it requested. -/
theorem calls_throw_server_error (e : Error) (status : Nat) (hs : status ≠ 200)
    (hlen : (Error.encode e).length < 2 ^ 32) :
    let failed (path : String) : ClientError :=
      .error ("Failed getting " ++ path ++ " (" ++ e.errorCode ++ "): " ++ e.msg)
    (∀ hashOrHeight, ChronikClient.block hashOrHeight ⟨status, Error.encode e⟩ =
      .error (failed ("/block/" ++ hashOrHeight))) ∧
    (∀ startHeight endHeight, ChronikClient.blocks startHeight endHeight ⟨status, Error.encode e⟩ =
      .error (failed ("/blocks/" ++ toString startHeight ++ "/" ++ toString endHeight))) ∧
    (∀ txid, ChronikClient.tx txid ⟨status, Error.encode e⟩ = .error (failed ("/tx/" ++ txid))) ∧
    ChronikClient.validateUtxos ⟨status, Error.encode e⟩ = .error (failed "/validate-utxos") ∧
    (∀ scriptType scriptPayload page pageSize,
      ScriptEndpoint.history scriptType scriptPayload page pageSize ⟨status, Error.encode e⟩ =
        .error (failed ("/script/" ++ scriptType ++ "/" ++ scriptPayload ++ "/history" ++
          historyQuery page pageSize))) ∧
    (∀ scriptType scriptPayload, ScriptEndpoint.utxos scriptType scriptPayload ⟨status, Error.encode e⟩ =
      .error (failed ("/script/" ++ scriptType ++ "/" ++ scriptPayload ++ "/utxos"))) := by
  have h := responseBody_server_error hs e hlen
  exact ⟨fun _ => by simp only [ChronikClient.block, h]; rfl, fun _ _ => by simp only [ChronikClient.blocks, h]; rfl,
    fun _ => by simp only [ChronikClient.tx, h]; rfl, by simp only [ChronikClient.validateUtxos, h]; rfl,
    fun _ _ _ _ => by simp only [ScriptEndpoint.history, h]; rfl,
    fun _ _ => by simp only [ScriptEndpoint.utxos, h]; rfl⟩

theorem calls_throw_server_error_404 :
    let failed (path : String) : ClientError :=
      .error ("Failed getting " ++ path ++ " (" ++ "not-found" ++ "): " ++ "no such tx")
    (∀ hashOrHeight, ChronikClient.block hashOrHeight ⟨404, Error.encode ⟨"not-found", "no such tx", true⟩⟩ =
      .error (failed ("/block/" ++ hashOrHeight))) ∧
    (∀ startHeight endHeight,
      ChronikClient.blocks startHeight endHeight ⟨404, Error.encode ⟨"not-found", "no such tx", true⟩⟩ =
        .error (failed ("/blocks/" ++ toString startHeight ++ "/" ++ toString endHeight))) ∧
    (∀ txid, ChronikClient.tx txid ⟨404, Error.encode ⟨"not-found", "no such tx", true⟩⟩ =
      .error (failed ("/tx/" ++ txid))) ∧
    ChronikClient.validateUtxos ⟨404, Error.encode ⟨"not-found", "no such tx", true⟩⟩ =
      .error (failed "/validate-utxos") ∧
    (∀ scriptType scriptPayload page pageSize, ScriptEndpoint.history scriptType scriptPayload page pageSize
      ⟨404, Error.encode ⟨"not-found", "no such tx", true⟩⟩ =
        .error (failed ("/script/" ++ scriptType ++ "/" ++ scriptPayload ++ "/history" ++
          historyQuery page pageSize))) ∧
    (∀ scriptType scriptPayload,
      ScriptEndpoint.utxos scriptType scriptPayload ⟨404, Error.encode ⟨"not-found", "no such tx", true⟩⟩ =
        .error (failed ("/script/" ++ scriptType ++ "/" ++ scriptPayload ++ "/utxos"))) :=
  calls_throw_server_error ⟨"not-found", "no such tx", true⟩ 404 (by decide) (by decide)

/-! ### Txids sent back to the server -/

/-- A txid whose bytes are not a palindrome: `00 01 02 … 1f`. -/
def sampleTxid : Bytes := (List.range 32).map UInt8.ofNat

/-- The txid of `spentTx`: 32 bytes `01`. -/
def fundingTxid : Bytes := List.replicate 32 1

/-- A transaction whose only output is spent by input 0 of `spenderTx`. -/
def spentTx : Tx :=
  { baseTx with txid := fundingTxid, outputs := [{ baseTxOutput with spentBy := some ⟨sampleTxid, 0⟩ }] }

/-- The transaction with txid `sampleTxid` whose input 0 spends output 0 of `spentTx`. -/
def spenderTx : Tx :=
  { baseTx with txid := sampleTxid, inputs := [{ baseTxInput with prevOut := some ⟨fundingTxid, 0⟩ }] }

/-- Outpoints whose txids are rendered by a function that `fromHexRev` reads back as `f` go to the
server with their txids mapped by `f`. -/
theorem validateUtxosRequest_render (render : Bytes → String) (f : Bytes → Bytes)
    (hrender : ∀ txid, fromHexRev (render txid) = some (f txid)) (outpoints : List OutPoint) :
    ChronikClient.validateUtxosRequest (outpoints.map fun o => ⟨render o.txid, o.outIdx⟩) =
      .ok (ValidateUtxoRequest.encode ⟨outpoints.map fun o => ⟨f o.txid, o.outIdx⟩⟩) := by
  have hmap : ∀ os : List OutPoint, (os.map fun o => (⟨render o.txid, o.outIdx⟩ : Client.OutPoint)).mapM
      toProtoOutPoint = .ok (os.map fun o => ⟨f o.txid, o.outIdx⟩) := by
    intro os
    induction os with
    | nil => rfl
    | cons o os ih =>
      rw [List.map_cons, List.mapM_cons, ih]
      simp only [toProtoOutPoint, hrender]
      rfl
  rw [ChronikClient.validateUtxosRequest, hmap]
  rfl

/-- The outpoints the client exposes with display-order txids go back to the server as the wire
bytes it sent: a transaction's own txid with any output index, each input's `prevOut`, and a
utxo's `outpoint`. -/
theorem validateUtxos_sends_wire_txids :
    (∀ tx converted (outIdx : Uint32), convertToTx tx = .ok converted →
      ChronikClient.validateUtxosRequest [⟨converted.txid, outIdx⟩] =
        .ok (ValidateUtxoRequest.encode ⟨[⟨tx.txid, outIdx⟩]⟩)) ∧
    (∀ input converted prevOut, convertToTxInput input = .ok converted → input.prevOut = some prevOut →
      ChronikClient.validateUtxosRequest [converted.prevOut] =
        .ok (ValidateUtxoRequest.encode ⟨[prevOut]⟩)) ∧
    (∀ utxo converted outpoint, convertToUtxo utxo = .ok converted → utxo.outpoint = some outpoint →
      ChronikClient.validateUtxosRequest [converted.outpoint] =
        .ok (ValidateUtxoRequest.encode ⟨[outpoint]⟩)) := by
  have wire := validateUtxosRequest_render toHexRev id fromHexRev_toHexRev
  refine ⟨fun tx converted outIdx h => ?_, fun input converted prevOut h hp => ?_,
    fun utxo converted outpoint h hp => ?_⟩
  · obtain ⟨_, -, h⟩ := bind_eq_ok.mp h
    obtain ⟨_, -, h⟩ := bind_eq_ok.mp h
    obtain ⟨_, -, h⟩ := bind_eq_ok.mp h
    cases h
    exact wire [⟨tx.txid, outIdx⟩]
  · rw [convertToTxInput, hp] at h
    obtain ⟨_, -, h⟩ := bind_eq_ok.mp h
    cases h
    exact wire [prevOut]
  · rw [convertToUtxo, hp] at h
    obtain ⟨_, -, h⟩ := bind_eq_ok.mp h
    obtain ⟨_, -, h⟩ := bind_eq_ok.mp h
    cases h
    exact wire [outpoint]

/-- The transaction `spenderTx`, its input, and a utxo of its output 1: each txid goes back to the
server as the wire bytes it came as, `sampleTxid` and `fundingTxid`. -/
theorem spenderTx_txids_sent_as_wire_bytes :
    (∃ converted, convertToTx spenderTx = .ok converted ∧
      ChronikClient.validateUtxosRequest [⟨converted.txid, 1⟩] =
        .ok (ValidateUtxoRequest.encode ⟨[⟨sampleTxid, 1⟩]⟩)) ∧
    (∃ converted, convertToTxInput { baseTxInput with prevOut := some ⟨fundingTxid, 0⟩ } = .ok converted ∧
      ChronikClient.validateUtxosRequest [converted.prevOut] =
        .ok (ValidateUtxoRequest.encode ⟨[⟨fundingTxid, 0⟩]⟩)) ∧
    (∃ converted, convertToUtxo { baseUtxo with outpoint := some ⟨sampleTxid, 1⟩ } = .ok converted ∧
      ChronikClient.validateUtxosRequest [converted.outpoint] =
        .ok (ValidateUtxoRequest.encode ⟨[⟨sampleTxid, 1⟩]⟩)) := by
  obtain ⟨htx, hinput, hutxo⟩ := validateUtxos_sends_wire_txids
  exact ⟨⟨_, rfl, htx spenderTx _ 1 rfl⟩,
    ⟨_, rfl, hinput { baseTxInput with prevOut := some ⟨fundingTxid, 0⟩ } _ ⟨fundingTxid, 0⟩ rfl rfl⟩,
    ⟨_, rfl, hutxo { baseUtxo with outpoint := some ⟨sampleTxid, 1⟩ } _ ⟨sampleTxid, 1⟩ rfl rfl⟩⟩

/-- The `spentBy` outpoint of a converted output goes back to the server with its txid reversed. -/
theorem validateUtxosRequest_spentBy (output : TxOutput) (spentBy : OutPoint)
    (h : output.spentBy = some spentBy) :
    (convertToTxOutput output).spentBy.map (fun o => ChronikClient.validateUtxosRequest [o]) =
      some (.ok (ValidateUtxoRequest.encode ⟨[⟨spentBy.txid.reverse, spentBy.outIdx⟩]⟩)) := by
  rw [convertToTxOutput, h, Option.map_some', Option.map_some']
  exact congrArg some (validateUtxosRequest_render toHex List.reverse fromHexRev_toHex [spentBy])

theorem validateUtxosRequest_spentBy_0102 :
    (convertToTxOutput { baseTxOutput with spentBy := some ⟨[1, 2], 0⟩ }).spentBy.map
        (fun o => ChronikClient.validateUtxosRequest [o]) =
      some (.ok (ValidateUtxoRequest.encode ⟨[⟨[1, 2].reverse, 0⟩]⟩)) :=
  validateUtxosRequest_spentBy _ ⟨[1, 2], 0⟩ rfl

/-- The output of `spentTx` spent by `spenderTx` shows a `spentBy` txid other than the txid shown
for `spenderTx`, and `validateUtxos` sends that outpoint back with the txid bytes reversed. -/
theorem spentBy_txid_sent_reversed :
    (convertToTx spenderTx).map (·.txid) = .ok (toHexRev sampleTxid) ∧
    (convertToTx spentTx).map (fun tx => tx.outputs.map (·.spentBy)) = .ok [some ⟨toHex sampleTxid, 0⟩] ∧
    toHex sampleTxid ≠ toHexRev sampleTxid ∧
    ChronikClient.validateUtxosRequest [⟨toHex sampleTxid, 0⟩] =
      .ok (ValidateUtxoRequest.encode ⟨[⟨sampleTxid.reverse, 0⟩]⟩) ∧
    sampleTxid.reverse ≠ sampleTxid := by
  have hrev : sampleTxid.reverse ≠ sampleTxid := by decide
  refine ⟨rfl, rfl, fun h => hrev (toHex_injective h).symm, ?_, hrev⟩
  exact validateUtxosRequest_render toHex List.reverse fromHexRev_toHex [⟨sampleTxid, 0⟩]

end Chronik
