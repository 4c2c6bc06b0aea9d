import Chronik.Protobuf.Writer

/-! # The JSON helpers of chronik.ts

`toJSON` writes a `bytes` field with `base64FromBytes` and `fromJSON` reads it with
`bytesFromBase64`, through the platform's `btoa` and `atob`; an enum field is written by the name
its `ToJSON` gives and read by its `FromJSON` switch. `btoa` and `atob` are not code of the
repository: they are modelled from the forgiving-base64 encode and decode of the HTML standard,
which they run, over RFC 4648's table.

* `bytesFromBase64_base64FromBytes`: `bytesFromBase64` reads back every text `base64FromBytes`
  writes.
* `bytesFromBase64_accepts`: it reads the same bytes from that text with ASCII whitespace anywhere
  and without its padding, so distinct texts decode alike.
* `enums_json_roundtrip`: each enum's `FromJSON` reads back the `ToJSON` name of a declared value,
  and `UNRECOGNIZED` for any other value. -/

namespace Chronik

namespace Base64

/-- RFC 4648's table: the character of a six-bit value, `A-Z`, `a-z`, `0-9`, `+`, `/`. -/
def encodeSextet (n : Nat) : Char :=
  Char.ofNat (if n < 26 then n + 65 else if n < 52 then n + 71 else if n < 62 then n - 4
    else if n = 62 then 43 else 47)

/-- The six-bit value of a character of the table. -/
def decodeChar (c : Char) : Option Nat :=
  if 65 ≤ c.toNat ∧ c.toNat ≤ 90 then some (c.toNat - 65)
  else if 97 ≤ c.toNat ∧ c.toNat ≤ 122 then some (c.toNat - 71)
  else if 48 ≤ c.toNat ∧ c.toNat ≤ 57 then some (c.toNat + 4)
  else if c.toNat = 43 then some 62
  else if c.toNat = 47 then some 63
  else none

/-- The six-bit groups of bytes, three bytes to four groups; the last one or two bytes give two or
three groups, their missing bits zero. -/
def sextets : Bytes → List Nat
  | a :: b :: c :: rest =>
    [a.toNat / 4, a.toNat % 4 * 16 + b.toNat / 16, b.toNat % 16 * 4 + c.toNat / 64, c.toNat % 64] ++ sextets rest
  | [a, b] => [a.toNat / 4, a.toNat % 4 * 16 + b.toNat / 16, b.toNat % 16 * 4]
  | [a] => [a.toNat / 4, a.toNat % 4 * 16]
  | [] => []

/-- The `=` that close the last group of four characters. -/
def padding (length : Nat) : List Char := List.replicate ((3 - length % 3) % 3) '='

/-- Forgiving-base64 encode: the characters of the six-bit groups, then the padding. -/
def encode (bytes : Bytes) : List Char := (sextets bytes).map encodeSextet ++ padding bytes.length

/-- ASCII whitespace: tab, line feed, form feed, carriage return, space. -/
def isAsciiWhitespace (c : Char) : Bool :=
  c.toNat = 9 || c.toNat = 10 || c.toNat = 12 || c.toNat = 13 || c.toNat = 32

/-- Step 2 of forgiving-base64 decode: a length that divides by 4 loses one or two final `=`. -/
def stripPadding (data : List Char) : List Char :=
  if data.length % 4 = 0 then
    if data.reverse.take 2 = ['=', '='] then data.dropLast.dropLast
    else if data.getLast? = some '=' then data.dropLast
    else data
  else data

/-- One character of the decode loop: its six bits join the buffer, and 24 bits are three bytes
of output. The state is the output, the buffer and its bit count. -/
def decodeStep : Bytes × Nat × Nat → Nat → Bytes × Nat × Nat
  | (output, buffer, bits), n =>
    let buffer := buffer * 64 + n
    if bits + 6 = 24 then
      (output ++ [UInt8.ofNat (buffer / 65536), UInt8.ofNat (buffer / 256 % 256), UInt8.ofNat (buffer % 256)],
        0, 0)
    else (output, buffer, bits + 6)

/-- The end of the decode: 12 bits left lose their last four and give one byte, 18 bits lose their
last two and give two bytes. -/
def decodeRest : Bytes × Nat × Nat → Bytes
  | (output, buffer, bits) =>
    if bits = 12 then output ++ [UInt8.ofNat (buffer / 16)]
    else if bits = 18 then output ++ [UInt8.ofNat (buffer / 1024), UInt8.ofNat (buffer / 4 % 256)]
    else output

/-- Forgiving-base64 decode: whitespace removed, then the padding; a length of 1 modulo 4 or a
character outside the table is a failure. -/
def decode (data : List Char) : Option Bytes := do
  let data := stripPadding (data.filter fun c => !isAsciiWhitespace c)
  if data.length % 4 = 1 then none
  else
    let values ← data.mapM decodeChar
    pure (decodeRest (values.foldl decodeStep ([], 0, 0)))

/-! ### The table, the groups and the decode loop -/

theorem toNat_charOfNat {m : Nat} (h : m < 0xD800) : (Char.ofNat m).toNat = m := by
  unfold Char.ofNat
  rw [dif_pos (Or.inl h)]
  rfl

theorem byte_ofNat_toNat (b : UInt8) : UInt8.ofNat b.toNat = b :=
  UInt8.toNat.inj (UInt8.toNat_ofNat_of_lt b.val.isLt)

theorem byte_lt (b : UInt8) : b.toNat < 256 := b.val.isLt

theorem byte_eq {m : Nat} {b : UInt8} (h : m = b.toNat) : UInt8.ofNat m = b := by
  rw [h, byte_ofNat_toNat]

theorem decodeChar_encodeSextet {n : Nat} (h : n < 64) : decodeChar (encodeSextet n) = some n := by
  unfold encodeSextet
  split_ifs with h1 h2 h3 h4 <;> rw [decodeChar, toNat_charOfNat (by omega)]
  · rw [if_pos (by omega)]; exact congrArg some (by omega)
  · rw [if_neg (by omega), if_pos (by omega)]; exact congrArg some (by omega)
  · rw [if_neg (by omega), if_neg (by omega), if_pos (by omega)]; exact congrArg some (by omega)
  · rw [if_neg (by omega), if_neg (by omega), if_neg (by omega), if_pos rfl, h4]
  · rw [if_neg (by omega), if_neg (by omega), if_neg (by omega), if_neg (by decide), if_pos rfl]
    exact congrArg some (by omega)

/-- The table's characters lie from `+` on and miss `=`. -/
theorem encodeSextet_toNat (n : Nat) : 43 ≤ (encodeSextet n).toNat ∧ (encodeSextet n).toNat ≠ 61 := by
  unfold encodeSextet
  split_ifs <;> rw [toNat_charOfNat (by omega)] <;> omega

theorem encodeSextet_ne (n : Nat) : isAsciiWhitespace (encodeSextet n) = false ∧ encodeSextet n ≠ '=' := by
  have h := encodeSextet_toNat n
  refine ⟨?_, fun e => h.2 (by rw [e]; rfl)⟩
  simp only [isAsciiWhitespace, Bool.or_eq_false_iff, decide_eq_false_iff_not]
  omega

theorem sextets_lt : ∀ (bytes : Bytes), ∀ n ∈ sextets bytes, n < 64
  | a :: b :: c :: rest => by
    have := byte_lt a; have := byte_lt b; have := byte_lt c
    simp only [sextets, List.mem_append, List.mem_cons, List.mem_nil_iff, or_false]
    intro n hn
    rcases hn with (rfl | rfl | rfl | rfl) | hn
    any_goals omega
    exact sextets_lt rest n hn
  | [a, b] => by
    have := byte_lt a; have := byte_lt b
    simp only [sextets, List.mem_cons, List.mem_nil_iff, or_false]
    rintro n (rfl | rfl | rfl) <;> omega
  | [a] => by
    have := byte_lt a
    simp only [sextets, List.mem_cons, List.mem_nil_iff, or_false]
    rintro n (rfl | rfl) <;> omega
  | [] => nofun

theorem mapM_decodeChar : ∀ (values : List Nat), (∀ n ∈ values, n < 64) →
    (values.map encodeSextet).mapM decodeChar = some values
  | [], _ => rfl
  | n :: values, h => by
    simp only [List.map_cons, List.mapM_cons, decodeChar_encodeSextet (h n (List.mem_cons_self n values)),
      mapM_decodeChar values fun m hm => h m (List.mem_cons_of_mem n hm)]
    rfl

theorem decodeStep_shift {output : Bytes} {buffer : Nat} (bits n : Nat) (h : bits + 6 ≠ 24) :
    decodeStep (output, buffer, bits) n = (output, buffer * 64 + n, bits + 6) := if_neg h

/-- The buffer of the decode loop holds the four groups of three bytes, and gives the bytes back. -/
theorem foldl_decodeStep_quantum (output : Bytes) (a b c : UInt8) :
    [a.toNat / 4, a.toNat % 4 * 16 + b.toNat / 16, b.toNat % 16 * 4 + c.toNat / 64, c.toNat % 64].foldl
      decodeStep (output, 0, 0) = (output ++ [a, b, c], 0, 0) := by
  have := byte_lt a; have := byte_lt b; have := byte_lt c
  rw [List.foldl_cons, decodeStep_shift 0 _ (by decide), List.foldl_cons, decodeStep_shift 6 _ (by decide),
    List.foldl_cons, decodeStep_shift 12 _ (by decide), List.foldl_cons, List.foldl_nil, decodeStep,
    if_pos rfl, byte_eq (b := a) (by omega), byte_eq (b := b) (by omega), byte_eq (b := c) (by omega)]

/-- The decode loop gives back the bytes whose groups it reads. -/
theorem decodeRest_sextets (output : Bytes) : ∀ bytes : Bytes,
    decodeRest ((sextets bytes).foldl decodeStep (output, 0, 0)) = output ++ bytes
  | a :: b :: c :: rest => by
    rw [sextets, List.foldl_append, foldl_decodeStep_quantum, decodeRest_sextets, List.append_assoc]
    rfl
  | [a, b] => by
    have := byte_lt a; have := byte_lt b
    rw [sextets, List.foldl_cons, decodeStep_shift 0 _ (by decide), List.foldl_cons,
      decodeStep_shift 6 _ (by decide), List.foldl_cons, decodeStep_shift 12 _ (by decide), List.foldl_nil,
      decodeRest, if_neg (by decide), if_pos rfl, byte_eq (b := a) (by omega), byte_eq (b := b) (by omega)]
  | [a] => by
    have := byte_lt a
    rw [sextets, List.foldl_cons, decodeStep_shift 0 _ (by decide), List.foldl_cons,
      decodeStep_shift 6 _ (by decide), List.foldl_nil, decodeRest, if_pos rfl, byte_eq (b := a) (by omega)]
  | [] => (List.append_nil output).symm

/-- Four groups for three bytes, and two or three for the last one or two: the eight bits of each
byte in groups of six, rounded up. -/
theorem sextets_length : ∀ bytes : Bytes, (sextets bytes).length = (bytes.length * 4 + 2) / 3
  | a :: b :: c :: rest => by
    rw [sextets, List.length_append, sextets_length rest]
    simp only [List.length_cons, List.length_nil]
    omega
  | [_, _] | [_] | [] => by simp [sextets]

/-- A multiple of 4 ending in two `=` loses both. -/
theorem stripPadding_two {xs : List Char} (hlen : (xs.length + 2) % 4 = 0) :
    stripPadding (xs ++ ['=', '=']) = xs := by
  rw [stripPadding, if_pos (by simpa using hlen), if_pos (by simp), List.dropLast_append_cons]
  exact List.dropLast_concat

section Padding
variable {xs : List Char} (hxs : ∀ c ∈ xs, c ≠ '=')
include hxs

theorem take_two_reverse_ne : xs.reverse.take 2 ≠ ['=', '='] := fun h =>
  hxs '=' (List.mem_reverse.mp (List.mem_of_mem_take (h ▸ List.mem_cons_self '=' ['=']))) rfl

/-- Text without `=` is left as it is. -/
theorem stripPadding_of_unpadded : stripPadding xs = xs := by
  have hlast : xs.getLast? ≠ some '=' := fun h => hxs '=' (List.mem_of_getLast?_eq_some h) rfl
  rw [stripPadding, if_neg (take_two_reverse_ne hxs), if_neg hlast, ite_self]

/-- A multiple of 4 ending in one `=`, after text without `=`, loses it. -/
theorem stripPadding_one (hlen : (xs.length + 1) % 4 = 0) : stripPadding (xs ++ ['=']) = xs := by
  have htake : (xs ++ ['=']).reverse.take 2 ≠ ['=', '='] := by
    rw [List.reverse_append, List.reverse_singleton, List.singleton_append, List.take_succ_cons,
      Ne, List.cons.injEq, not_and]
    exact fun _ h => hxs '=' (List.mem_reverse.mp (List.mem_of_mem_take (h ▸ List.mem_singleton_self '='))) rfl
  rw [stripPadding, if_pos (by simpa using hlen), if_neg htake, if_pos (List.getLast?_concat xs),
    List.dropLast_concat]

end Padding

theorem encodeSextet_mem {c : Char} {bytes : Bytes} (h : c ∈ (sextets bytes).map encodeSextet) :
    isAsciiWhitespace c = false ∧ c ≠ '=' := by
  obtain ⟨n, _, rfl⟩ := List.mem_map.mp h
  exact encodeSextet_ne n

/-- Once whitespace is removed and the padding stripped, the characters of the groups of `bytes`
decode to `bytes`. -/
theorem decode_of_stripPadding {data : List Char} {bytes : Bytes}
    (h : stripPadding (data.filter fun c => !isAsciiWhitespace c) = (sextets bytes).map encodeSextet) :
    decode data = some bytes := by
  have hlen : ((sextets bytes).map encodeSextet).length % 4 ≠ 1 := by
    rw [List.length_map, sextets_length]
    omega
  simp only [decode, h, if_neg hlen, mapM_decodeChar _ (sextets_lt bytes)]
  exact congrArg some (decodeRest_sextets [] bytes)

theorem filter_encode (bytes : Bytes) : (encode bytes).filter (fun c => !isAsciiWhitespace c) = encode bytes := by
  refine List.filter_eq_self.mpr fun c hc => ?_
  rcases List.mem_append.mp hc with hc | hc
  · simp [(encodeSextet_mem hc).1]
  · rw [List.eq_of_mem_replicate hc]
    rfl

/-- The padding of an encoding is what step 2 of the decode strips. -/
theorem stripPadding_encode (bytes : Bytes) : stripPadding (encode bytes) = (sextets bytes).map encodeSextet := by
  have hxs c (hc : c ∈ (sextets bytes).map encodeSextet) := (encodeSextet_mem hc).2
  have hlen : ((sextets bytes).map encodeSextet).length = (bytes.length * 4 + 2) / 3 := by
    rw [List.length_map, sextets_length]
  rw [encode, padding]
  rcases (by omega : bytes.length % 3 = 0 ∨ bytes.length % 3 = 1 ∨ bytes.length % 3 = 2) with h | h | h
  · rw [h]; exact List.append_nil _ ▸ stripPadding_of_unpadded hxs
  · rw [h]; exact stripPadding_two (by omega)
  · rw [h]; exact stripPadding_one hxs (by omega)

/-- Forgiving-base64 decode reads back what forgiving-base64 encode wrote. -/
theorem decode_encode (bytes : Bytes) : decode (encode bytes) = some bytes :=
  decode_of_stripPadding (by rw [filter_encode, stripPadding_encode])

end Base64

/-! ### `btoa`, `atob` and the helpers that call them -/

/-- The binary string `String.fromCharCode` builds from bytes, a code unit a byte. -/
def binaryString (bytes : Bytes) : String := ⟨bytes.map fun b => Char.ofNat b.toNat⟩

/-- The platform's `btoa(data)`: `InvalidCharacterError` on a code point above U+00FF. -/
def btoa (data : String) : Except String String :=
  if data.toList.all (·.toNat ≤ 0xFF) then pure ⟨Base64.encode (data.toList.map fun c => UInt8.ofNat c.toNat)⟩
  else throw "InvalidCharacterError"

/-- The platform's `atob(data)`: the decoded bytes as a binary string. -/
def atob (data : String) : Except String String :=
  match Base64.decode data.toList with
  | some bytes => pure (binaryString bytes)
  | none => throw "InvalidCharacterError"

/-- The call `bytesFromBase64(b64)`: `atob`, then `arr[i] = bin.charCodeAt(i)`. -/
def bytesFromBase64 (b64 : String) : Except String Bytes := do
  let bin ← atob b64
  pure (bin.toList.map fun c => UInt8.ofNat c.toNat)

/-- The call `base64FromBytes(arr)`: `String.fromCharCode(byte)` of each byte, joined, then `btoa`. -/
def base64FromBytes (arr : Bytes) : Except String String := btoa (binaryString arr)

/-- A binary string's code units are the bytes it was built from. -/
theorem binaryString_toList (bytes : Bytes) :
    (binaryString bytes).toList.map (fun c => UInt8.ofNat c.toNat) = bytes := by
  rw [binaryString, String.toList, List.map_map]
  refine (List.map_congr_left fun b _ => ?_).trans (List.map_id bytes)
  exact (congrArg UInt8.ofNat (Base64.toNat_charOfNat (Nat.lt_trans (Base64.byte_lt b) (by decide)))).trans
    (Base64.byte_ofNat_toNat b)

/-- `btoa` never throws on the binary string of `base64FromBytes`. -/
theorem base64FromBytes_eq (arr : Bytes) : base64FromBytes arr = .ok ⟨Base64.encode arr⟩ := by
  have hall : (binaryString arr).toList.all (·.toNat ≤ 0xFF) = true := by
    simp only [List.all_eq_true, binaryString, String.toList, List.mem_map, decide_eq_true_eq]
    rintro _ ⟨b, _, rfl⟩
    rw [Base64.toNat_charOfNat (Nat.lt_trans (Base64.byte_lt b) (by decide))]
    exact Nat.le_of_lt_succ (Base64.byte_lt b)
  rw [base64FromBytes, btoa, if_pos hall, binaryString_toList]
  rfl

example : base64FromBytes [77, 97, 110] = .ok "TWFu" := rfl

theorem bytesFromBase64_of_decode {data : String} {bytes : Bytes}
    (h : Base64.decode data.toList = some bytes) :
    bytesFromBase64 data = .ok bytes := by
  rw [bytesFromBase64, atob, h]
  exact congrArg Except.ok (binaryString_toList bytes)

/-- `fromJSON` reads back every `bytes` field `toJSON` wrote: `bytesFromBase64` inverts
`base64FromBytes`. -/
theorem bytesFromBase64_base64FromBytes (arr : Bytes) :
    (base64FromBytes arr >>= bytesFromBase64) = .ok arr := by
  rw [base64FromBytes_eq]
  exact bytesFromBase64_of_decode (Base64.decode_encode arr)

/-- `bytesFromBase64` also accepts the encoding with ASCII whitespace anywhere in it, and without
its padding: distinct texts decode to the same bytes. -/
theorem bytesFromBase64_accepts (arr : Bytes) (data : String)
    (h : data.toList.filter (fun c => !Base64.isAsciiWhitespace c) = Base64.encode arr ∨
      data.toList.filter (fun c => !Base64.isAsciiWhitespace c) = (Base64.sextets arr).map Base64.encodeSextet) :
    bytesFromBase64 data = .ok arr := by
  refine bytesFromBase64_of_decode (Base64.decode_of_stripPadding ?_)
  rcases h with h | h
  · rw [h, Base64.stripPadding_encode]
  · rw [h]
    exact Base64.stripPadding_of_unpadded fun c hc => (Base64.encodeSextet_mem hc).2

/-- The encoding `TQ==` of the byte 77, with a space inside and without its padding. -/
theorem bytesFromBase64_spaced_unpadded : bytesFromBase64 "T Q" = .ok [77] :=
  bytesFromBase64_accepts [77] "T Q" (.inr (by decide))

/-! ### The enums' JSON names -/

/-- A value an enum's `FromJSON` meets: an integer number, a string, or any other value (another
number, a boolean, `null`, `undefined`, an object), which no `case` matches. -/
inductive JsValue where
  | number (n : Int)
  | string (s : String)
  | other
  deriving DecidableEq, Repr

/-- The `switch` of an enum's `FromJSON` from its case `i` on: `case i:` and `case "NAME_i":`
return `i`; past the declared names, `case -1:`, `case "UNRECOGNIZED":` and `default` return
`UNRECOGNIZED`, -1. -/
def enumFromJSONFrom (object : JsValue) : Nat → List String → Int
  | _, [] => -1
  | i, name :: names => if object = .number i ∨ object = .string name then i else enumFromJSONFrom object (i + 1) names

/-- The `switch` of an enum's `ToJSON` from its case `i` on: the name of a declared value, `default`
returning `"UNKNOWN"`. -/
def enumToJSONFrom (object : Int) : Nat → List String → String
  | _, [] => "UNKNOWN"
  | i, name :: names => if object = i then name else enumToJSONFrom object (i + 1) names

/-- An enum's `FromJSON(object)` over the names its values `0, 1, ...` declare. -/
def enumFromJSON (names : List String) (object : JsValue) : Int := enumFromJSONFrom object 0 names

/-- An enum's `ToJSON(object)` over the names its values `0, 1, ...` declare. -/
def enumToJSON (names : List String) (object : Int) : String := enumToJSONFrom object 0 names

def slpTokenTypeFromJSON (object : JsValue) : Int :=
  enumFromJSON ["FUNGIBLE", "NFT1_GROUP", "NFT1_CHILD", "UNKNOWN_TOKEN_TYPE"] object

def slpTokenTypeToJSON (object : Int) : String :=
  enumToJSON ["FUNGIBLE", "NFT1_GROUP", "NFT1_CHILD", "UNKNOWN_TOKEN_TYPE"] object

def slpTxTypeFromJSON (object : JsValue) : Int :=
  enumFromJSON ["GENESIS", "SEND", "MINT", "UNKNOWN_TX_TYPE"] object

def slpTxTypeToJSON (object : Int) : String :=
  enumToJSON ["GENESIS", "SEND", "MINT", "UNKNOWN_TX_TYPE"] object

def networkFromJSON (object : JsValue) : Int := enumFromJSON ["BCH", "XEC", "XPI", "XRG"] object

def networkToJSON (object : Int) : String := enumToJSON ["BCH", "XEC", "XPI", "XRG"] object

def utxoStateVariantFromJSON (object : JsValue) : Int :=
  enumFromJSON ["UNSPENT", "SPENT", "NO_SUCH_TX", "NO_SUCH_OUTPUT"] object

def utxoStateVariantToJSON (object : Int) : String :=
  enumToJSON ["UNSPENT", "SPENT", "NO_SUCH_TX", "NO_SUCH_OUTPUT"] object

/-- `ToJSON` returns a declared name or `"UNKNOWN"`. -/
theorem enumToJSONFrom_mem (object : Int) : ∀ (i : Nat) (names : List String),
    enumToJSONFrom object i names ∈ names ∨ enumToJSONFrom object i names = "UNKNOWN"
  | _, [] => .inr rfl
  | i, name :: names => by
    rw [enumToJSONFrom]
    split_ifs
    · exact .inl (List.mem_cons_self name names)
    · exact (enumToJSONFrom_mem object (i + 1) names).imp_left (List.mem_cons_of_mem name)

theorem enumFromJSONFrom_toJSON (object : Int) : ∀ (i : Nat) (names : List String), names.Nodup →
    "UNKNOWN" ∉ names →
    enumFromJSONFrom (.string (enumToJSONFrom object i names)) i names =
      if i ≤ object ∧ object < i + names.length then object else -1
  | i, [], _, _ => by
    rw [enumFromJSONFrom, if_neg (by simp only [List.length_nil]; omega)]
  | i, name :: names, hnd, hu => by
    rw [enumToJSONFrom]
    by_cases hi : object = i
    · rw [if_pos hi, enumFromJSONFrom, if_pos (.inr rfl), if_pos (by simp only [List.length_cons]; omega), hi]
    · have hne : enumToJSONFrom object (i + 1) names ≠ name := by
        rcases enumToJSONFrom_mem object (i + 1) names with h | h <;> intro e <;> rw [e] at h
        · exact (List.nodup_cons.mp hnd).1 h
        · exact hu (h ▸ List.mem_cons_self name names)
      rw [if_neg hi, enumFromJSONFrom, if_neg (by simp [hne]),
        enumFromJSONFrom_toJSON object (i + 1) names (List.nodup_cons.mp hnd).2
          (fun h => hu (List.mem_cons_of_mem name h))]
      simp only [List.length_cons]
      split_ifs <;> first | rfl | omega

/-- An enum's JSON round trip: a declared value comes back, any other (one a newer server declares,
read from the wire) comes back `UNRECOGNIZED`, -1. -/
theorem enumFromJSON_toJSON {names : List String} (hnd : names.Nodup) (hu : "UNKNOWN" ∉ names)
    (object : Int) :
    enumFromJSON names (.string (enumToJSON names object)) =
      if 0 ≤ object ∧ object < names.length then object else -1 := by
  rw [enumFromJSON, enumToJSON, enumFromJSONFrom_toJSON object 0 names hnd hu]
  rw [show ((0 : Nat) : Int) = 0 from rfl, Int.zero_add]

theorem enums_json_roundtrip (object : Int) :
    slpTokenTypeFromJSON (.string (slpTokenTypeToJSON object)) = (if 0 ≤ object ∧ object < 4 then object else -1) ∧
    slpTxTypeFromJSON (.string (slpTxTypeToJSON object)) = (if 0 ≤ object ∧ object < 4 then object else -1) ∧
    networkFromJSON (.string (networkToJSON object)) = (if 0 ≤ object ∧ object < 4 then object else -1) ∧
    utxoStateVariantFromJSON (.string (utxoStateVariantToJSON object)) =
      (if 0 ≤ object ∧ object < 4 then object else -1) :=
  ⟨enumFromJSON_toJSON (by decide) (by decide) object, enumFromJSON_toJSON (by decide) (by decide) object,
    enumFromJSON_toJSON (by decide) (by decide) object, enumFromJSON_toJSON (by decide) (by decide) object⟩


example : networkFromJSON (.string (networkToJSON 7)) = -1 := by decide
example : networkFromJSON (.number 2) = 2 := by decide

end Chronik
