import Chronik.Protobuf.Writer

/-! # Hex strings of the client

Modelled from the spec: `index.ts` imports `fromHex`, `fromHexRev`, `toHex` and `toHexRev` from
`./hex`, which is not among the repository's files. The spec fixes what they are for: "hash fields
are transmitted in natural byte order on the wire but conventionally displayed/compared in reversed
("display") order at client boundaries". So `toHex` renders bytes as lowercase hex, two digits a
byte in order, `toHexRev` renders the reversed bytes, and `fromHex` and `fromHexRev` parse them
back, failing (`hex.ts` throws) on a string of odd length or with a character that is not a
lowercase hex digit: as the `hex.ts` published with the client does, which looks each pair up in a
table of the 256 pairs `toHex` writes, the uppercase digits are rejected.

`fromHex` is a left inverse of `toHex` and `fromHexRev` of `toHexRev` (`fromHex_toHex`,
`fromHexRev_toHexRev`); `fromHexRev` on a `toHex` rendering returns the bytes reversed. -/

namespace Chronik
namespace Hex

/-- The lowercase hex digit of `n < 16`. -/
def hexDigit (n : Nat) : Char := if n < 10 then Char.ofNat (48 + n) else Char.ofNat (87 + n)

/-- The value of a lowercase hex digit. -/
def digitValue (c : Char) : Option Nat :=
  if 48 ≤ c.toNat ∧ c.toNat < 58 then some (c.toNat - 48)
  else if 97 ≤ c.toNat ∧ c.toNat < 103 then some (c.toNat - 87)
  else none

/-- The two digits of a byte. -/
def byteDigits (b : UInt8) : List Char := [hexDigit (b.toNat / 16), hexDigit (b.toNat % 16)]

/-- Modelled from the spec: the call `toHex(bytes)`. -/
def toHex (bytes : Bytes) : String := ⟨bytes.flatMap byteDigits⟩

/-- Modelled from the spec: the call `toHexRev(bytes)`, the display order of a hash. -/
def toHexRev (bytes : Bytes) : String := toHex bytes.reverse

/-- Pairs of digits to bytes; `none` on an odd count or a character that is not a digit. -/
def parseDigits : List Char → Option Bytes
  | [] => some []
  | [_] => none
  | hi :: lo :: rest => do
    let h ← digitValue hi
    let l ← digitValue lo
    let tail ← parseDigits rest
    pure (UInt8.ofNat (h * 16 + l) :: tail)

/-- Modelled from the spec: the call `fromHex(str)`; `none` where it throws. -/
def fromHex (str : String) : Option Bytes := parseDigits str.data

/-- Modelled from the spec: the call `fromHexRev(str)`. -/
def fromHexRev (str : String) : Option Bytes := (fromHex str).map List.reverse

theorem digitValue_hexDigit : ∀ n, n < 16 → digitValue (hexDigit n) = some n := by
  decide

theorem parseDigits_byteDigits (b : UInt8) (rest : List Char) :
    parseDigits (byteDigits b ++ rest) = (parseDigits rest).map (b :: ·) := by
  have hb : b.toNat < 256 := b.val.isLt
  rw [byteDigits, List.cons_append, List.singleton_append, parseDigits,
    digitValue_hexDigit _ (by omega), digitValue_hexDigit _ (by omega)]
  have hv : UInt8.ofNat (b.toNat / 16 * 16 + b.toNat % 16) = b := by
    rw [show b.toNat / 16 * 16 + b.toNat % 16 = b.toNat by omega]
    exact UInt8.eq_of_val_eq (Fin.ext (Nat.mod_eq_of_lt b.val.isLt))
  cases parseDigits rest <;> simp [hv]

theorem parseDigits_flatMap : ∀ bytes : Bytes, parseDigits (bytes.flatMap byteDigits) = some bytes
  | [] => rfl
  | b :: bytes => by
    rw [List.flatMap_cons, parseDigits_byteDigits, parseDigits_flatMap bytes]
    rfl

theorem fromHex_toHex (bytes : Bytes) : fromHex (toHex bytes) = some bytes :=
  parseDigits_flatMap bytes

theorem fromHexRev_toHexRev (bytes : Bytes) : fromHexRev (toHexRev bytes) = some bytes := by
  rw [fromHexRev, toHexRev, fromHex_toHex, Option.map_some', List.reverse_reverse]

/-- Parsing a rendering in wire order as a display-order string reverses the bytes. -/
theorem fromHexRev_toHex (bytes : Bytes) : fromHexRev (toHex bytes) = some bytes.reverse := by
  rw [fromHexRev, fromHex_toHex, Option.map_some']

theorem toHex_injective {a b : Bytes} (h : toHex a = toHex b) : a = b := by
  have := congrArg fromHex h
  rwa [fromHex_toHex, fromHex_toHex, Option.some_inj] at this

end Hex
end Chronik
