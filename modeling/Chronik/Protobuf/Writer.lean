import Mathlib.Data.List.Basic
import Mathlib.Algebra.Group.Nat.Basic
import Mathlib.Algebra.Group.Int

/-! # The protobufjs `Writer`

Every `encode` of `chronik.ts` appends its fields to a `Writer` of `protobufjs/minimal`: a tag
`writer.uint32(field << 3 | wireType)`, then the payload, skipping a field that holds its default.
`finish()` returns the bytes. A writer is modelled by the bytes it holds, and each method by the
bytes it appends. `fork()` and `ldelim()` around a nested `encode` append the nested bytes after
their length (`ldelim`).

Each scalar type holds the values its proto type allows: `int32` and `uint32` fields hold the
integers of their range, and a `Long` holds its 64 bits. -/

namespace Chronik

/-- A `Uint8Array`. -/
abbrev Bytes := List UInt8

/-- A JavaScript number that is an integer of the `int32` range: `int32` fields and enums. -/
structure Int32 where
  val : Int
  lo : -2 ^ 31 ≤ val
  hi : val < 2 ^ 31
  deriving DecidableEq, Repr

instance : OfNat Int32 n := ⟨⟨(n : Int) % 2 ^ 31, by omega, by omega⟩⟩

/-- A JavaScript number that is an integer of the `uint32` range. -/
abbrev Uint32 := Fin (2 ^ 32)

/-- A `Long` by its 64 bits. A decoder makes it signed for an `int64` field and unsigned for a
`uint64` field, so a message holds each `Long` with the signedness of its field. -/
abbrev Long := Fin (2 ^ 64)

namespace Writer

/-- The loop of protobufjs `writeVarint32` and `writeVarint64`, `while (val > 127)`, for at most
`fuel` rounds. -/
def varintLoop : (fuel n : Nat) → Bytes
  | 0, n => [UInt8.ofNat n]
  | fuel + 1, n => if n < 128 then [UInt8.ofNat n] else UInt8.ofNat (n % 128 + 128) :: varintLoop fuel (n / 128)

/-- Protobufjs `writeVarint32` and `writeVarint64`: seven bits a byte, low bits first, `0x80` on every byte
but the last. The loop runs fewer than `n` rounds. -/
def varint (n : Nat) : Bytes := varintLoop n n

/-- Any fuel of at least `n` rounds writes the same bytes. -/
theorem varintLoop_fuel : ∀ {f₁ f₂ n : Nat}, n ≤ f₁ → n ≤ f₂ → varintLoop f₁ n = varintLoop f₂ n
  | 0, 0, _, _, _ => rfl
  | 0, _ + 1, n, h, _ => by rw [Nat.le_zero.mp h]; rfl
  | _ + 1, 0, n, _, h => by rw [Nat.le_zero.mp h]; rfl
  | f₁ + 1, f₂ + 1, n, h₁, h₂ => by
    simp only [varintLoop]
    split
    · rfl
    · exact congrArg _ (varintLoop_fuel (by omega) (by omega))

theorem varint_of_lt {n : Nat} (h : n < 128) : varint n = [UInt8.ofNat n] := by
  cases n with
  | zero => rfl
  | succ k => rw [varint, varintLoop, if_pos h]

theorem varint_of_ge {n : Nat} (h : 128 ≤ n) :
    varint n = UInt8.ofNat (n % 128 + 128) :: varint (n / 128) := by
  obtain ⟨k, rfl⟩ : ∃ k, n = k + 1 := ⟨n - 1, by omega⟩
  rw [varint, varintLoop, if_neg (by omega), varint, varintLoop_fuel (by omega) le_rfl]

/-- Protobufjs `Writer.uint32(value)`: the varint of `value >>> 0`. -/
def uint32 (value : Nat) : Bytes := varint (value % 2 ^ 32)

/-- Protobufjs `Writer.int32(value)`: a negative value is the ten-byte varint of its 64-bit two's complement. -/
def int32 (value : Int32) : Bytes :=
  if value.val < 0 then varint (value.val + 2 ^ 64).toNat else uint32 value.val.toNat

/-- Protobufjs `Writer.int64` and `Writer.uint64` (one function in protobufjs): the varint of the 64 bits. -/
def int64 (value : Long) : Bytes := varint value.val

/-- Protobufjs `Writer.bool(value)`: one byte. -/
def bool (value : Bool) : Bytes := [if value then 1 else 0]

/-- Protobufjs `Writer.bytes(value)`: `len = value.length >>> 0`, then the single byte `0` when `len` is zero,
else `uint32(len)` and the bytes (for a value of more than `2 ^ 32` bytes protobufjs copies it
into a slot of `len` bytes; the model keeps the whole value there). -/
def bytes (value : Bytes) : Bytes :=
  if value.length % 2 ^ 32 = 0 then [0] else uint32 value.length ++ value

/-- Protobufjs `utf8.write` on one code point: the UTF-8 bytes of the character (a surrogate pair of the
JavaScript string is one code point here). -/
def utf8Char (c : Char) : Bytes :=
  let n := c.toNat
  if n < 0x80 then [UInt8.ofNat n]
  else if n < 0x800 then [UInt8.ofNat (n / 64 + 192), UInt8.ofNat (n % 64 + 128)]
  else if n < 0x10000 then
    [UInt8.ofNat (n / 4096 + 224), UInt8.ofNat (n / 64 % 64 + 128), UInt8.ofNat (n % 64 + 128)]
  else
    [UInt8.ofNat (n / 262144 + 240), UInt8.ofNat (n / 4096 % 64 + 128),
      UInt8.ofNat (n / 64 % 64 + 128), UInt8.ofNat (n % 64 + 128)]

/-- Protobufjs `utf8.write(value)`. -/
def utf8 (value : String) : Bytes := value.toList.flatMap utf8Char

/-- Protobufjs `Writer.string(value)`: `len = utf8.length(value)`, then the single byte `0` when `len` is zero,
else `uint32(len)` and the UTF-8 bytes. -/
def string (value : String) : Bytes :=
  if (utf8 value).length = 0 then [0] else uint32 (utf8 value).length ++ utf8 value

/-- The calls `fork()`, the nested `encode`, then `ldelim()`: the nested bytes after their length. -/
def ldelim (nested : Bytes) : Bytes := uint32 nested.length ++ nested

/-! ### Fields

The generated `encode` writes a scalar field only when it differs from its default, an optional
sub-message only when it is present, and each element of a repeated field in order. -/

/-- The guarded write `if (present) { writer.uint32(tag)...(payload) }`. -/
def field (tag : Nat) (present : Bool) (payload : Bytes) : Bytes :=
  if present then uint32 tag ++ payload else []

/-- A `bytes` field: written when `value.length !== 0`. -/
def bytesField (tag : Nat) (value : Bytes) : Bytes := field tag (value.length != 0) (bytes value)

/-- A `string` field: written when `value !== ""`. -/
def stringField (tag : Nat) (value : String) : Bytes := field tag (value != "") (string value)

/-- An `int32` or enum field: written when `value !== 0`. -/
def int32Field (tag : Nat) (value : Int32) : Bytes := field tag (value != 0) (int32 value)

/-- A `uint32` field: written when `value !== 0`. -/
def uint32Field (tag : Nat) (value : Uint32) : Bytes := field tag (value != 0) (uint32 value.val)

/-- An `int64` or `uint64` field: written when `!value.isZero()`. -/
def longField (tag : Nat) (value : Long) : Bytes := field tag (value != 0) (int64 value)

/-- A `bool` field: written when `value === true`. -/
def boolField (tag : Nat) (value : Bool) : Bytes := field tag value (bool value)

/-- An optional sub-message: written with `fork()`/`ldelim()` when it is not `undefined`. -/
def messageField {α : Type} (tag : Nat) (encode : α → Bytes) : Option α → Bytes
  | some v => uint32 tag ++ ldelim (encode v)
  | none => []

/-- A repeated sub-message: `for (const v of values) encode(v, writer.uint32(tag).fork()).ldelim()`. -/
def repeatedField {α : Type} (tag : Nat) (encode : α → Bytes) (values : List α) : Bytes :=
  values.flatMap fun v => uint32 tag ++ ldelim (encode v)

end Writer
end Chronik
