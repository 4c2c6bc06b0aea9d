import Chronik.Client.Hex
import Chronik.Proto.Block
import Chronik.Proto.Utxo
import Mathlib.Data.List.Forall2

/-! # The client's conversions

`index.ts` turns each decoded proto message into the client's own interface: hashes and txids
become display-order hex (`toHexRev`), scripts and token ids wire-order hex (`toHex`), enums become
string unions, and what the proto allows to be absent but the client requires is checked. Each
`convertTo…` is modelled with the message it throws (`Except String`), in the order the object
literal evaluates its fields, so the first failing field decides the message.

The four enum `switch`es are one `enumSwitch` over the declared values `0..3`; `convertToSlpMeta`
reports an undeclared `txType` with the message of an undeclared token type, "Invalid token type".
The genesis texts are read by `new TextDecoder().decode(...)`, modelled as the UTF-8 decoder of
the Encoding standard (`textDecoderDecode`).

`convertToTx_ok_iff` and its kin say exactly when a conversion throws, and `convertToTx_kept`
what a returned transaction keeps of the proto one. -/

namespace Chronik

/-! ### The client's interfaces -/

namespace Client

/-- The `Network` union. -/
inductive Network where
  | BCH | XEC | XPI | XRG
  deriving DecidableEq, Repr

/-- The `SlpTokenType` union. -/
inductive SlpTokenType where
  | FUNGIBLE | NFT1_GROUP | NFT1_CHILD | UNKNOWN_TOKEN_TYPE
  deriving DecidableEq, Repr

/-- The `SlpTxType` union. -/
inductive SlpTxType where
  | GENESIS | SEND | MINT | UNKNOWN_TX_TYPE
  deriving DecidableEq, Repr

/-- The `UtxoStateVariant` union. -/
inductive UtxoStateVariant where
  | UNSPENT | SPENT | NO_SUCH_TX | NO_SUCH_OUTPUT
  deriving DecidableEq, Repr

/-- The client's `OutPoint`: the txid in display order. -/
structure OutPoint where
  txid : String
  outIdx : Uint32
  deriving DecidableEq, Repr

/-- The client's `SlpToken`. -/
structure SlpToken where
  amount : Long
  isMintBaton : Bool
  deriving DecidableEq, Repr

/-- The client's `SlpBurn`. -/
structure SlpBurn where
  token : SlpToken
  tokenId : String
  deriving DecidableEq, Repr

/-- The client's `SlpMeta`. -/
structure SlpMeta where
  tokenType : SlpTokenType
  txType : SlpTxType
  tokenId : String
  groupTokenId : Option String
  deriving DecidableEq, Repr

/-- The client's `SlpGenesisInfo`. -/
structure SlpGenesisInfo where
  tokenTicker : String
  tokenName : String
  tokenDocumentUrl : String
  tokenDocumentHash : String
  decimals : Uint32
  deriving DecidableEq, Repr

/-- The client's `SlpTxData`. -/
structure SlpTxData where
  slpMeta : SlpMeta
  genesisInfo : Option SlpGenesisInfo
  deriving DecidableEq, Repr

/-- The client's `BlockMetadata`. -/
structure BlockMetadata where
  height : Int32
  hash : String
  timestamp : Long
  deriving DecidableEq, Repr

/-- The client's `TxInput`. -/
structure TxInput where
  prevOut : OutPoint
  inputScript : String
  outputScript : Option String
  value : Long
  sequenceNo : Uint32
  slpBurn : Option SlpBurn
  slpToken : Option SlpToken
  deriving DecidableEq, Repr

/-- The client's `TxOutput`. -/
structure TxOutput where
  value : Long
  outputScript : String
  slpToken : Option SlpToken
  spentBy : Option OutPoint
  deriving DecidableEq, Repr

/-- The client's `Tx`. -/
structure Tx where
  txid : String
  version : Int32
  inputs : List TxInput
  outputs : List TxOutput
  lockTime : Uint32
  slpTxData : Option SlpTxData
  slpErrorMsg : Option String
  block : Option BlockMetadata
  timeFirstSeen : Long
  network : Network
  deriving DecidableEq, Repr

/-- The client's `Utxo`. -/
structure Utxo where
  outpoint : OutPoint
  blockHeight : Int32
  isCoinbase : Bool
  value : Long
  slpMeta : Option SlpMeta
  slpToken : Option SlpToken
  network : Network
  deriving DecidableEq, Repr

/-- The client's `BlockInfo`: the proto fields, with the two hashes in display order. -/
structure BlockInfo where
  hash : String
  prevHash : String
  height : Int32
  nBits : Uint32
  timestamp : Long
  blockSize : Long
  numTxs : Long
  numInputs : Long
  numOutputs : Long
  sumInputSats : Long
  sumCoinbaseOutputSats : Long
  sumNormalOutputSats : Long
  sumBurnedSats : Long
  deriving DecidableEq, Repr

/-- The client's `Block`. -/
structure Block where
  blockInfo : BlockInfo
  txs : List Tx
  deriving DecidableEq, Repr

end Client

open Hex

/-! ### Outcomes of code that throws -/

@[simp] theorem except_pure {ε α : Type} (a : α) : (pure a : Except ε α) = .ok a := rfl

@[simp] theorem except_throw {ε α : Type} (e : ε) : (throw e : Except ε α) = .error e := rfl

theorem error_iff_not_ok {ε α : Type} (r : Except ε α) : (∃ e, r = .error e) ↔ ¬∃ a, r = .ok a := by
  cases r <;> simp

theorem ok_bind_iff {ε α β : Type} {x : Except ε α} {f : α → Except ε β} :
    (∃ b, (x >>= f) = .ok b) ↔ ∃ a, x = .ok a ∧ ∃ b, f a = .ok b := by
  cases x <;> simp [bind, Except.bind]

theorem bind_eq_ok {ε α β : Type} {x : Except ε α} {f : α → Except ε β} {b : β} :
    (x >>= f) = .ok b ↔ ∃ a, x = .ok a ∧ f a = .ok b := by
  cases x <;> simp [bind, Except.bind]

theorem ok_optionMapM_iff {ε α β : Type} (f : α → Except ε β) (o : Option α) :
    (∃ c, o.mapM f = .ok c) ↔ ∀ a ∈ o, ∃ b, f a = .ok b := by
  cases o <;> simp [Option.mapM, ok_bind_iff]

theorem ok_mapM_iff {ε α β : Type} (f : α → Except ε β) :
    ∀ l : List α, (∃ bs, l.mapM f = .ok bs) ↔ ∀ a ∈ l, ∃ b, f a = .ok b
  | [] => ⟨fun _ _ h => absurd h (List.not_mem_nil _), fun _ => ⟨[], rfl⟩⟩
  | a :: l => by
    simp only [List.mapM_cons, ok_bind_iff, List.mem_cons, forall_eq_or_imp, ok_mapM_iff f l]
    constructor
    · rintro ⟨b, hb, bs, hbs, _⟩
      exact ⟨⟨b, hb⟩, (ok_mapM_iff f l).mp ⟨bs, hbs⟩⟩
    · rintro ⟨⟨b, hb⟩, hl⟩
      obtain ⟨bs, hbs⟩ := (ok_mapM_iff f l).mpr hl
      exact ⟨b, hb, bs, hbs, _, rfl⟩

theorem mapM_forall₂ {ε α β : Type} {f : α → Except ε β} :
    ∀ {l : List α} {bs : List β}, l.mapM f = .ok bs → List.Forall₂ (fun a b => f a = .ok b) l bs
  | [], bs, h => by
    cases h
    exact .nil
  | a :: l, bs, h => by
    rw [List.mapM_cons] at h
    cases ha : f a with
    | error e => rw [ha] at h; cases h
    | ok b =>
      cases hl : l.mapM f with
      | error e => rw [ha, hl] at h; cases h
      | ok bs' =>
        rw [ha, hl] at h
        cases h
        exact .cons ha (mapM_forall₂ hl)

/-! ### Enums -/

/-- A `switch` over the declared values `0..3` of a proto enum, the `default` case throwing
`message` followed by the value. -/
def enumSwitch {α : Type} (c₀ c₁ c₂ c₃ : α) (message : String) (value : Int32) : Except String α :=
  if value.val = 0 then pure c₀
  else if value.val = 1 then pure c₁
  else if value.val = 2 then pure c₂
  else if value.val = 3 then pure c₃
  else throw (message ++ toString value.val)

/-- The enum values a `switch` declares. -/
def Declared (value : Int32) : Prop := 0 ≤ value.val ∧ value.val ≤ 3

instance (value : Int32) : Decidable (Declared value) := inferInstanceAs (Decidable (_ ∧ _))

theorem enumSwitch_ok_iff {α : Type} {c₀ c₁ c₂ c₃ : α} {message : String} {value : Int32} :
    (∃ a, enumSwitch c₀ c₁ c₂ c₃ message value = .ok a) ↔ Declared value := by
  unfold enumSwitch Declared
  split_ifs <;> simp <;> omega

theorem enumSwitch_of_undeclared {α : Type} {c₀ c₁ c₂ c₃ : α} {message : String} {value : Int32}
    (h : ¬Declared value) : enumSwitch c₀ c₁ c₂ c₃ message value = .error (message ++ toString value.val) := by
  unfold Declared at h
  rw [enumSwitch, if_neg (by omega), if_neg (by omega), if_neg (by omega), if_neg (by omega)]
  rfl

theorem enumSwitch_error {α : Type} {c₀ c₁ c₂ c₃ : α} {message e : String} {value : Int32}
    (h : enumSwitch c₀ c₁ c₂ c₃ message value = .error e) : e = message ++ toString value.val := by
  unfold enumSwitch at h
  split_ifs at h <;> cases h
  rfl

/-- The call `convertToNetwork(network)`. -/
def convertToNetwork (network : Int32) : Except String Client.Network :=
  enumSwitch .BCH .XEC .XPI .XRG "Unknown network: " network

/-- The call `convertToUtxoStateVariant(variant)`. -/
def convertToUtxoStateVariant (variant : Int32) : Except String Client.UtxoStateVariant :=
  enumSwitch .UNSPENT .SPENT .NO_SUCH_TX .NO_SUCH_OUTPUT "Unknown UtxoStateVariant: " variant

/-! ### Conversions -/

/-- U+FFFD REPLACEMENT CHARACTER. -/
def replacementChar : Char := Char.ofNat 0xFFFD

/-- The state of the UTF-8 decoder of the Encoding standard between two bytes: the code point
built so far, the bytes its sequence needs and has had, and the bounds of the next byte. -/
structure Utf8Decoder where
  codePoint : Nat
  bytesNeeded : Nat
  bytesSeen : Nat
  lowerBoundary : Nat
  upperBoundary : Nat
  deriving DecidableEq, Repr

namespace Utf8Decoder

/-- Between two sequences. -/
def init : Utf8Decoder := ⟨0, 0, 0, 0x80, 0xBF⟩

/-- The handler on a byte that starts a sequence: an ASCII code point, the start of a longer
sequence with the bounds of its second byte, or an error. -/
def lead (byte : Nat) : List Char × Utf8Decoder :=
  if byte ≤ 0x7F then ([Char.ofNat byte], init)
  else if 0xC2 ≤ byte ∧ byte ≤ 0xDF then ([], ⟨byte &&& 0x1F, 1, 0, 0x80, 0xBF⟩)
  else if 0xE0 ≤ byte ∧ byte ≤ 0xEF then
    ([], ⟨byte &&& 0xF, 2, 0, if byte = 0xE0 then 0xA0 else 0x80, if byte = 0xED then 0x9F else 0xBF⟩)
  else if 0xF0 ≤ byte ∧ byte ≤ 0xF4 then
    ([], ⟨byte &&& 0x7, 3, 0, if byte = 0xF0 then 0x90 else 0x80, if byte = 0xF4 then 0x8F else 0xBF⟩)
  else ([replacementChar], init)

/-- The handler on one byte, with errors replaced by U+FFFD: a byte out of the bounds ends the
sequence with an error and is handled again, from the start. -/
def handler (d : Utf8Decoder) (byte : Nat) : List Char × Utf8Decoder :=
  if d.bytesNeeded = 0 then lead byte
  else if ¬(d.lowerBoundary ≤ byte ∧ byte ≤ d.upperBoundary) then
    let (out, d) := lead byte
    (replacementChar :: out, d)
  else
    let codePoint := (d.codePoint <<< 6) ||| (byte &&& 0x3F)
    if d.bytesSeen + 1 = d.bytesNeeded then ([Char.ofNat codePoint], init)
    else ([], ⟨codePoint, d.bytesNeeded, d.bytesSeen + 1, 0x80, 0xBF⟩)

/-- The decoder over the bytes, then the end of the queue, where a sequence left unfinished is an
error. -/
def decode (d : Utf8Decoder) : List UInt8 → List Char
  | [] => if d.bytesNeeded = 0 then [] else [replacementChar]
  | byte :: bytes =>
    let (out, d) := d.handler byte.toNat
    out ++ decode d bytes

end Utf8Decoder

/-- The call `new TextDecoder().decode(bytes)`: UTF-8, each maximal invalid subsequence replaced by
U+FFFD, and a byte order mark U+FEFF at the start dropped (`ignoreBOM` is false). -/
def textDecoderDecode (bytes : Bytes) : String :=
  match Utf8Decoder.init.decode bytes with
  | c :: chars => if c = Char.ofNat 0xFEFF then ⟨chars⟩ else ⟨c :: chars⟩
  | [] => ""

/-- The call `convertToSlpToken(token)`. -/
def convertToSlpToken (token : SlpToken) : Client.SlpToken :=
  { amount := token.amount, isMintBaton := token.isMintBaton }

/-- The call `convertToSlpBurn(burn)`. -/
def convertToSlpBurn (burn : SlpBurn) : Except String Client.SlpBurn :=
  match burn.token with
  | none => throw "Invalid burn: token is undefined"
  | some token => pure { token := convertToSlpToken token, tokenId := toHex burn.tokenId }

/-- The call `convertToSlpMeta(slpMeta)`: both `switch`es throw "Invalid token type". -/
def convertToSlpMeta (slpMeta : SlpMeta) : Except String Client.SlpMeta := do
  let tokenType ← enumSwitch .FUNGIBLE .NFT1_GROUP .NFT1_CHILD .UNKNOWN_TOKEN_TYPE
    "Invalid token type: " slpMeta.tokenType
  let txType ← enumSwitch .GENESIS .SEND .MINT .UNKNOWN_TX_TYPE "Invalid token type: " slpMeta.txType
  pure { tokenType, txType, tokenId := toHex slpMeta.tokenId,
         groupTokenId := if slpMeta.groupTokenId.length = 32 then some (toHex slpMeta.groupTokenId) else none }

/-- The call `convertToSlpGenesisInfo(info)`. -/
def convertToSlpGenesisInfo (info : SlpGenesisInfo) : Client.SlpGenesisInfo :=
  { tokenTicker := textDecoderDecode info.tokenTicker, tokenName := textDecoderDecode info.tokenName,
    tokenDocumentUrl := textDecoderDecode info.tokenDocumentUrl,
    tokenDocumentHash := toHex info.tokenDocumentHash, decimals := info.decimals }

/-- The call `convertToSlpTxData(slpTxData)`. -/
def convertToSlpTxData (slpTxData : SlpTxData) : Except String Client.SlpTxData :=
  match slpTxData.slpMeta with
  | none => throw "Invalid slpTxData: slpMeta is undefined"
  | some slpMeta => do
    let slpMeta ← convertToSlpMeta slpMeta
    pure { slpMeta, genesisInfo := slpTxData.genesisInfo.map convertToSlpGenesisInfo }

/-- The call `convertToBlockMeta(block)`. -/
def convertToBlockMeta (block : BlockMetadata) : Client.BlockMetadata :=
  { height := block.height, hash := toHexRev block.hash, timestamp := block.timestamp }

/-- The call `convertToBlockInfo(block)`: `{ ...block }` with both hashes in display order. -/
def convertToBlockInfo (block : BlockInfo) : Client.BlockInfo :=
  { block with hash := toHexRev block.hash, prevHash := toHexRev block.prevHash }

/-- The call `convertToTxInput(input)`; `x !== undefined ? convert(x) : undefined` is
`Option.mapM`. -/
def convertToTxInput (input : TxInput) : Except String Client.TxInput :=
  match input.prevOut with
  | none => throw "Invalid proto, no prevOut"
  | some prevOut => do
    let slpBurn ← input.slpBurn.mapM convertToSlpBurn
    pure { prevOut := { txid := toHexRev prevOut.txid, outIdx := prevOut.outIdx },
           inputScript := toHex input.inputScript,
           outputScript := if 0 < input.outputScript.length then some (toHex input.outputScript) else none,
           value := input.value, sequenceNo := input.sequenceNo, slpBurn,
           slpToken := input.slpToken.map convertToSlpToken }

/-- The call `convertToTxOutput(output)`: the txid of `spentBy` is rendered by `toHex`, in wire
order. -/
def convertToTxOutput (output : TxOutput) : Client.TxOutput :=
  { value := output.value, outputScript := toHex output.outputScript,
    slpToken := output.slpToken.map convertToSlpToken,
    spentBy := output.spentBy.map fun spentBy => { txid := toHex spentBy.txid, outIdx := spentBy.outIdx } }

/-- The call `convertToTx(tx)`. -/
def convertToTx (tx : Tx) : Except String Client.Tx := do
  let inputs ← tx.inputs.mapM convertToTxInput
  let slpTxData ← tx.slpTxData.mapM convertToSlpTxData
  let network ← convertToNetwork tx.network
  pure { txid := toHexRev tx.txid, version := tx.version, inputs,
         outputs := tx.outputs.map convertToTxOutput, lockTime := tx.lockTime, slpTxData,
         slpErrorMsg := if tx.slpErrorMsg.length ≠ 0 then some tx.slpErrorMsg else none,
         block := tx.block.map convertToBlockMeta, timeFirstSeen := tx.timeFirstSeen, network }

/-- The call `convertToUtxo(utxo)`. -/
def convertToUtxo (utxo : Utxo) : Except String Client.Utxo :=
  match utxo.outpoint with
  | none => throw "UTXO outpoint is undefined"
  | some outpoint => do
    let slpMeta ← utxo.slpMeta.mapM convertToSlpMeta
    let network ← convertToNetwork utxo.network
    pure { outpoint := { txid := toHexRev outpoint.txid, outIdx := outpoint.outIdx },
           blockHeight := utxo.blockHeight, isCoinbase := utxo.isCoinbase, value := utxo.value, slpMeta,
           slpToken := utxo.slpToken.map convertToSlpToken, network }

/-- The call `convertToBlock(block)`. -/
def convertToBlock (block : Block) : Except String Client.Block :=
  match block.blockInfo with
  | none => throw "Block has no blockInfo"
  | some blockInfo => do
    let txs ← block.txs.mapM convertToTx
    pure { blockInfo := convertToBlockInfo blockInfo, txs }

/-! ### When a conversion throws -/

/-- An input `convertToTxInput` rejects: no `prevOut`, or an `slpBurn` without `token`. -/
def InputMalformed (input : TxInput) : Prop :=
  input.prevOut = none ∨ ∃ burn ∈ input.slpBurn, burn.token = none

/-- SLP metadata whose `tokenType` or `txType` is none of the four declared values. -/
def SlpMetaMalformed (slpMeta : SlpMeta) : Prop :=
  ¬Declared slpMeta.tokenType ∨ ¬Declared slpMeta.txType

/-- SLP data without `slpMeta`, or with malformed `slpMeta`. -/
def SlpTxDataMalformed (slpTxData : SlpTxData) : Prop :=
  slpTxData.slpMeta = none ∨ ∃ slpMeta ∈ slpTxData.slpMeta, SlpMetaMalformed slpMeta

/-- A transaction `convertToTx` rejects: a malformed input or SLP data, or an undeclared network. -/
def TxMalformed (tx : Tx) : Prop :=
  (∃ input ∈ tx.inputs, InputMalformed input) ∨ (∃ slpTxData ∈ tx.slpTxData, SlpTxDataMalformed slpTxData) ∨
    ¬Declared tx.network

/-- A utxo `convertToUtxo` rejects: no outpoint, malformed SLP metadata, or an undeclared network. -/
def UtxoMalformed (utxo : Utxo) : Prop :=
  utxo.outpoint = none ∨ (∃ slpMeta ∈ utxo.slpMeta, SlpMetaMalformed slpMeta) ∨ ¬Declared utxo.network

theorem convertToSlpBurn_ok_iff (burn : SlpBurn) :
    (∃ c, convertToSlpBurn burn = .ok c) ↔ burn.token ≠ none := by
  unfold convertToSlpBurn
  cases burn.token <;> simp

theorem convertToSlpMeta_ok_iff (slpMeta : SlpMeta) :
    (∃ c, convertToSlpMeta slpMeta = .ok c) ↔ ¬SlpMetaMalformed slpMeta := by
  simp only [convertToSlpMeta, ok_bind_iff, enumSwitch_ok_iff, except_pure, Except.ok.injEq, exists_eq',
    and_true, exists_and_right, SlpMetaMalformed, not_or, not_not]

theorem convertToSlpTxData_ok_iff (slpTxData : SlpTxData) :
    (∃ c, convertToSlpTxData slpTxData = .ok c) ↔ ¬SlpTxDataMalformed slpTxData := by
  unfold convertToSlpTxData SlpTxDataMalformed
  cases slpTxData.slpMeta with
  | none => simp
  | some slpMeta =>
    simp only [ok_bind_iff, convertToSlpMeta_ok_iff, except_pure, Except.ok.injEq, exists_eq', and_true,
      exists_and_right, Option.mem_def, Option.some.injEq, exists_eq_left', reduceCtorEq, false_or]

theorem convertToTxInput_ok_iff (input : TxInput) :
    (∃ c, convertToTxInput input = .ok c) ↔ ¬InputMalformed input := by
  unfold convertToTxInput InputMalformed
  cases input.prevOut with
  | none => simp
  | some prevOut =>
    simp only [ok_bind_iff, ok_optionMapM_iff, convertToSlpBurn_ok_iff, except_pure, Except.ok.injEq,
      exists_eq', and_true, reduceCtorEq, false_or, not_exists, not_and, ne_eq]

theorem convertToNetwork_ok_iff (network : Int32) :
    (∃ c, convertToNetwork network = .ok c) ↔ Declared network :=
  enumSwitch_ok_iff

theorem convertToTx_ok_iff (tx : Tx) : (∃ c, convertToTx tx = .ok c) ↔ ¬TxMalformed tx := by
  simp only [convertToTx, TxMalformed, ok_bind_iff, ok_mapM_iff, ok_optionMapM_iff, convertToTxInput_ok_iff,
    convertToSlpTxData_ok_iff, convertToNetwork_ok_iff, except_pure, Except.ok.injEq, exists_eq', and_true,
    exists_and_right, not_or, not_exists, not_and, not_not]

theorem convertToUtxo_ok_iff (utxo : Utxo) : (∃ c, convertToUtxo utxo = .ok c) ↔ ¬UtxoMalformed utxo := by
  unfold convertToUtxo UtxoMalformed
  cases utxo.outpoint with
  | none => simp
  | some outpoint =>
    simp only [ok_bind_iff, ok_optionMapM_iff, convertToSlpMeta_ok_iff, convertToNetwork_ok_iff, except_pure,
      Except.ok.injEq, exists_eq', and_true, exists_and_right, reduceCtorEq, false_or, not_or, not_exists,
      not_and, not_not]

theorem convertToBlock_ok_iff (block : Block) :
    (∃ c, convertToBlock block = .ok c) ↔ ¬(block.blockInfo = none ∨ ∃ tx ∈ block.txs, TxMalformed tx) := by
  unfold convertToBlock
  cases block.blockInfo with
  | none => simp
  | some blockInfo =>
    simp only [ok_bind_iff, ok_mapM_iff, convertToTx_ok_iff, except_pure, Except.ok.injEq, exists_eq',
      and_true, reduceCtorEq, false_or, not_exists, not_and]

/-! ### What a conversion keeps -/

/-- A converted input keeps its proto input's `prevOut.outIdx`, `value` and `sequenceNo`. -/
def InputKept (input : TxInput) (converted : Client.TxInput) : Prop :=
  ∃ prevOut, input.prevOut = some prevOut ∧ converted.prevOut.outIdx = prevOut.outIdx ∧
    converted.value = input.value ∧ converted.sequenceNo = input.sequenceNo

theorem convertToTxInput_kept {input : TxInput} {converted : Client.TxInput}
    (h : convertToTxInput input = .ok converted) : InputKept input converted := by
  unfold convertToTxInput at h
  cases hp : input.prevOut with
  | none => rw [hp] at h; cases h
  | some prevOut =>
    rw [hp] at h
    obtain ⟨slpBurn, -, h⟩ := bind_eq_ok.mp h
    cases h
    exact ⟨prevOut, hp, rfl, rfl, rfl⟩

/-- A converted transaction has the proto transaction's inputs and outputs, in order, with their
outpoint indices, values and sequence numbers. -/
theorem convertToTx_kept {tx : Tx} {converted : Client.Tx} (h : convertToTx tx = .ok converted) :
    List.Forall₂ InputKept tx.inputs converted.inputs ∧
      List.Forall₂ (fun o c => c.value = o.value) tx.outputs converted.outputs := by
  obtain ⟨inputs, hi, h⟩ := bind_eq_ok.mp h
  obtain ⟨slpTxData, -, h⟩ := bind_eq_ok.mp h
  obtain ⟨network, -, h⟩ := bind_eq_ok.mp h
  cases h
  exact ⟨(mapM_forall₂ hi).imp fun _ _ => convertToTxInput_kept,
    List.forall₂_map_right_iff.mpr (List.forall₂_same.mpr fun _ _ => rfl)⟩

/-- Conversion throws exactly on malformed responses and otherwise keeps the structure: for
`convertToTx`, `convertToBlock` and `convertToUtxo`. -/
theorem convert_throws_iff_malformed :
    (∀ tx : Tx, (∃ e, convertToTx tx = .error e) ↔ TxMalformed tx) ∧
    (∀ tx converted, convertToTx tx = .ok converted →
      List.Forall₂ InputKept tx.inputs converted.inputs ∧
        List.Forall₂ (fun o c => c.value = o.value) tx.outputs converted.outputs) ∧
    (∀ block : Block, (∃ e, convertToBlock block = .error e) ↔
      block.blockInfo = none ∨ ∃ tx ∈ block.txs, TxMalformed tx) ∧
    (∀ utxo : Utxo, (∃ e, convertToUtxo utxo = .error e) ↔ UtxoMalformed utxo) :=
  ⟨fun tx => by rw [error_iff_not_ok, convertToTx_ok_iff, not_not],
    fun _ _ => convertToTx_kept,
    fun block => by rw [error_iff_not_ok, convertToBlock_ok_iff, not_not],
    fun utxo => by rw [error_iff_not_ok, convertToUtxo_ok_iff, not_not]⟩


/-- An input spending output 3 of the transaction with txid `01 02`, of value 5. -/
def sampleInput : TxInput := { baseTxInput with prevOut := some ⟨[1, 2], 3⟩, value := 5 }

/-- An output of value 7. -/
def sampleOutput : TxOutput := { baseTxOutput with value := 7 }

/-- A transaction with one input and one output converts, keeping the input's outpoint, value and
sequence number and the output's value. -/
theorem convert_keeps_input_and_output :
    ∃ converted, convertToTx { baseTx with inputs := [sampleInput], outputs := [sampleOutput] } = .ok converted ∧
      List.Forall₂ InputKept [sampleInput] converted.inputs ∧
      List.Forall₂ (fun o c => c.value = o.value) [sampleOutput] converted.outputs :=
  ⟨_, rfl, convert_throws_iff_malformed.2.1 { baseTx with inputs := [sampleInput], outputs := [sampleOutput] } _ rfl⟩

end Chronik
