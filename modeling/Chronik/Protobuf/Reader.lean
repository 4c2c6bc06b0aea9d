import Chronik.Protobuf.Writer

/-! # The protobufjs `Reader`

A `Reader` of `protobufjs/minimal` holds the buffer and a position; the buffer never changes, so a
read is modelled as a function of the buffer and a position that returns the value and the new
position, or what the reader throws.

The reads follow protobufjs's control flow, with its unchecked fast paths: `uint32` reads five
bytes without a bounds check (a byte past the end is `undefined`, whose `& 127` is `0` and which
counts as a continuation byte) and then skips five more bytes unread; `readLongVarint` takes a
bounds-checked slow path when at most four bytes remain, whose fourth byte is read unchecked. The
JavaScript accumulators OR seven-bit groups into disjoint bits, written here as sums.

Every read that returns moves the position forward (`uint32_spec`, `skipType` by its type); a tag
whose bytes run to the end of the input, fewer than ten of them, throws (`uint32_truncated`). -/

namespace Chronik

/-- What a protobufjs `Reader` throws. -/
inductive DecodeError where
  /-- Thrown as `indexOutOfRange(reader, writeLength)`: reading `writeLength` bytes at `pos` passes `len`. -/
  | indexOutOfRange (pos writeLength len : Nat)
  /-- Thrown when `readLongVarint` meets an eleventh varint byte. -/
  | invalidVarint
  /-- Thrown when `skipType` meets wire type `wireType` at `offset`. -/
  | invalidWireType (wireType offset : Nat)
  deriving DecidableEq, Repr

namespace Reader

/-- The low bits `buf[pos] & 127`; past the end `undefined & 127` is `0`. -/
def low7 (buf : Bytes) (pos : Nat) : Nat :=
  match buf[pos]? with
  | some b => b.toNat % 128
  | none => 0

/-- The continuation bit `!(buf[pos] < 128)`; past the end `undefined < 128` is false. -/
def more (buf : Bytes) (pos : Nat) : Bool :=
  match buf[pos]? with
  | some b => 128 ≤ b.toNat
  | none => true

/-- At most `n` varint bytes from `pos` with no bounds check; byte `i` adds its seven bits at
`128 ^ i`. `true` when a byte without the continuation bit ended the scan. -/
def scan (buf : Bytes) : (n i acc pos : Nat) → Nat × Nat × Bool
  | 0, _, acc, pos => (acc, pos, false)
  | n + 1, i, acc, pos =>
    if more buf pos then scan buf n (i + 1) (acc + low7 buf pos * 128 ^ i) (pos + 1)
    else (acc + low7 buf pos * 128 ^ i, pos + 1, true)

/-- The scan on the slow paths of `readLongVarint`: each byte is bounds-checked first. -/
def scanChecked (buf : Bytes) : (n i acc pos : Nat) → Except DecodeError (Nat × Nat × Bool)
  | 0, _, acc, pos => .ok (acc, pos, false)
  | n + 1, i, acc, pos =>
    if buf.length ≤ pos then .error (.indexOutOfRange pos 1 buf.length)
    else if more buf pos then scanChecked buf n (i + 1) (acc + low7 buf pos * 128 ^ i) (pos + 1)
    else .ok (acc + low7 buf pos * 128 ^ i, pos + 1, true)

/-- Protobufjs `Reader.uint32`: the fifth byte adds only its low four bits (`value >>> 0`); after five
continuation bytes, the position moves five bytes further unread, or throws past the end. -/
def uint32 (buf : Bytes) (pos : Nat) : Except DecodeError (Uint32 × Nat) :=
  match scan buf 5 0 0 pos with
  | (v, p, true) => .ok (⟨v % 2 ^ 32, Nat.mod_lt _ (by decide)⟩, p)
  | (v, p, false) =>
    if buf.length < p + 5 then .error (.indexOutOfRange buf.length 10 buf.length)
    else .ok (⟨v % 2 ^ 32, Nat.mod_lt _ (by decide)⟩, p + 5)

/-- JavaScript `value | 0`: the `int32` of the same 32 bits. -/
def toInt32 (v : Uint32) : Int32 :=
  if h : v.val < 2 ^ 31 then ⟨v.val, by omega, by omega⟩
  else ⟨(v.val : Int) - 2 ^ 32, by have := v.isLt; omega, by have := v.isLt; omega⟩

/-- Protobufjs `Reader.int32`: `this.uint32() | 0`. -/
def int32 (buf : Bytes) (pos : Nat) : Except DecodeError (Int32 × Nat) :=
  (uint32 buf pos).map fun (v, q) => (toInt32 v, q)

/-- Protobufjs `Reader.bool`: `this.uint32() !== 0`. -/
def bool (buf : Bytes) (pos : Nat) : Except DecodeError (Bool × Nat) :=
  (uint32 buf pos).map fun (v, q) => (v != 0, q)

/-- The 64 bits `LongBits.toLong` keeps. -/
def toLong (v : Nat) : Long := ⟨v % 2 ^ 64, Nat.mod_lt _ (by decide)⟩

/-- Protobufjs `readLongVarint`, behind `Reader.int64` and `Reader.uint64`: with more than four bytes left,
five unchecked bytes for the low word, then five bytes for the high word (unchecked when more
than four remain, checked otherwise), and an eleventh byte throws; with at most four left, three
checked bytes and a fourth read unchecked. -/
def readLongVarint (buf : Bytes) (pos : Nat) : Except DecodeError (Long × Nat) :=
  if 4 < buf.length - pos then
    match scan buf 5 0 0 pos with
    | (v, p, true) => .ok (toLong v, p)
    | (v, p, false) =>
      match (if 4 < buf.length - p then .ok (scan buf 5 5 v p) else scanChecked buf 5 5 v p) with
      | .ok (v, q, true) => .ok (toLong v, q)
      | .ok (_, _, false) => .error .invalidVarint
      | .error e => .error e
  else
    match scanChecked buf 3 0 0 pos with
    | .ok (v, p, true) => .ok (toLong v, p)
    | .ok (v, p, false) => .ok (toLong (v + low7 buf p * 128 ^ 3), p + 1)
    | .error e => .error e

/-- Protobufjs `Reader.bytes`: a `uint32` length, then that many bytes, which must lie inside the buffer. -/
def bytes (buf : Bytes) (pos : Nat) : Except DecodeError (Bytes × Nat) :=
  match uint32 buf pos with
  | .error e => .error e
  | .ok (length, start) =>
    if buf.length < start + length.val then .error (.indexOutOfRange start length.val buf.length)
    else .ok ((buf.drop start).take length.val, start + length.val)

/-- Protobufjs `utf8.read`: a lead byte and the continuation bytes it announces, whose low six bits it reads
(past the end a byte reads as `0`). Code points become characters by `Char.ofNat`: on the UTF-8 of
a string this is protobufjs's result, and on other bytes protobufjs builds UTF-16 text with lone
surrogates, which a `String` cannot hold. -/
def utf8 : Bytes → List Char
  | [] => []
  | t :: rest =>
    let b (i : Nat) : Nat := match rest[i]? with
      | some x => x.toNat % 64
      | none => 0
    if t.toNat < 128 then Char.ofNat t.toNat :: utf8 rest
    else if 191 < t.toNat ∧ t.toNat < 224 then Char.ofNat (t.toNat % 32 * 64 + b 0) :: utf8 (rest.drop 1)
    else if 239 < t.toNat ∧ t.toNat < 365 then
      Char.ofNat (t.toNat % 8 * 262144 + b 0 * 4096 + b 1 * 64 + b 2) :: utf8 (rest.drop 3)
    else Char.ofNat (t.toNat % 16 * 4096 + b 0 * 64 + b 1) :: utf8 (rest.drop 2)
termination_by l => l.length
decreasing_by all_goals simp only [List.length_drop, List.length_cons]; omega

/-- Protobufjs `Reader.string`: `utf8.read` of `this.bytes()`. -/
def string (buf : Bytes) (pos : Nat) : Except DecodeError (String × Nat) :=
  (bytes buf pos).map fun (b, q) => (⟨utf8 b⟩, q)

/-- Protobufjs `Reader.skip(length)`. -/
def skipN (buf : Bytes) (length pos : Nat) : Except DecodeError Nat :=
  if buf.length < pos + length then .error (.indexOutOfRange pos length buf.length) else .ok (pos + length)

/-- Protobufjs `Reader.skip()`: a varint, each byte bounds-checked. -/
def skipVarint (buf : Bytes) (pos : Nat) : Except DecodeError Nat :=
  if buf.length ≤ pos then .error (.indexOutOfRange pos 1 buf.length)
  else if more buf pos then skipVarint buf (pos + 1) else .ok (pos + 1)
termination_by buf.length - pos

/-! ### Progress -/

theorem scan_le {buf : Bytes} : ∀ {n i acc pos v q b}, scan buf n i acc pos = (v, q, b) →
    pos ≤ q
  | 0, _, _, _, _, _, _, h => by cases h; exact Nat.le_refl _
  | n + 1, i, acc, pos, v, q, b, h => by
    unfold scan at h
    split at h
    · have := scan_le h
      omega
    · cases h
      omega


theorem scan_true {buf : Bytes} : ∀ {n i acc pos v q}, scan buf n i acc pos = (v, q, true) →
    pos < q ∧ q ≤ buf.length
  | 0, _, _, _, _, _, h => by simp [scan] at h
  | n + 1, i, acc, pos, v, q, h => by
    unfold scan at h
    split at h
    · have := scan_true h
      omega
    · obtain ⟨-, rfl, -⟩ := Prod.mk.inj_iff.mp h
      rename_i hm
      simp only [more] at hm
      split at hm
      · rename_i b hb
        have := (List.getElem?_eq_some_iff.mp hb).1
        omega
      · simp at hm

theorem scan_false {buf : Bytes} : ∀ {n i acc pos v q}, scan buf n i acc pos = (v, q, false) →
    q = pos + n
  | 0, _, _, _, _, _, h => by simp only [scan, Prod.mk.injEq] at h; omega
  | n + 1, i, acc, pos, v, q, h => by
    unfold scan at h
    split at h
    · have := scan_false h
      omega
    · simp at h

/-- A `uint32` that returns has read at least one byte, all inside the buffer. -/
theorem uint32_spec {buf : Bytes} {pos : Nat} {v : Uint32} {q : Nat} (h : uint32 buf pos = .ok (v, q)) :
    pos < q ∧ q ≤ buf.length := by
  unfold uint32 at h
  split at h
  · rename_i hs
    cases h
    exact scan_true hs
  · rename_i hs
    have := scan_false hs
    split at h
    · cases h
    · cases h
      omega

/-- Over continuation bytes, and past the end, the scan reads all `n` bytes without ending. -/
theorem scan_more {buf : Bytes} : ∀ {n i acc pos : Nat}, (∀ j, pos ≤ j → more buf j = true) →
    (scan buf n i acc pos).2 = (pos + n, false)
  | 0, _, _, _, _ => rfl
  | n + 1, i, acc, pos, h => by
    rw [scan, if_pos (h pos (Nat.le_refl pos)), scan_more fun j hj => h j (by omega), Nat.add_assoc,
      Nat.add_comm 1 n]

/-- A `uint32` whose bytes all carry the continuation bit, fewer than ten before the end, throws
`index out of range: len + 10 > len`. -/
theorem uint32_truncated {buf : Bytes} {pos : Nat} (h : ∀ j, pos ≤ j → more buf j = true)
    (hshort : buf.length < pos + 10) : uint32 buf pos = .error (.indexOutOfRange buf.length 10 buf.length) := by
  have hs : scan buf 5 0 0 pos = ((scan buf 5 0 0 pos).1, pos + 5, false) := by
    rw [← scan_more (n := 5) (i := 0) h]
  rw [uint32, hs]
  exact if_pos (by omega)

theorem skipN_spec {buf : Bytes} {length pos q : Nat} (h : skipN buf length pos = .ok q) :
    q = pos + length ∧ q ≤ buf.length := by
  unfold skipN at h
  split at h
  · cases h
  · cases h
    omega

theorem skipVarint_spec {buf : Bytes} {pos q : Nat} (h : skipVarint buf pos = .ok q) :
    pos < q ∧ q ≤ buf.length := by
  induction pos using skipVarint.induct buf with
  | case1 pos hl => rw [skipVarint, if_pos hl] at h; cases h
  | case2 pos hl hm ih =>
    rw [skipVarint, if_neg hl, if_pos hm] at h
    have := ih h
    omega
  | case3 pos hl hm =>
    rw [skipVarint, if_neg hl, if_neg hm] at h
    cases h
    omega

/-! ### Skipping unknown fields -/

/-- A position after `pos`, inside the buffer: where a skip leaves the reader. -/
abbrev After (buf : Bytes) (pos : Nat) := {q : Nat // pos < q ∧ q ≤ buf.length}

mutual

/-- Protobufjs `Reader.skipType(wireType)`: a varint, eight bytes, a length-delimited payload, a group, or
four bytes; any other wire type throws. -/
def skipType (buf : Bytes) (wireType pos : Nat) : Except DecodeError (After buf pos) :=
  match wireType with
  | 0 =>
    match h : skipVarint buf pos with
    | .ok q => .ok ⟨q, skipVarint_spec h⟩
    | .error e => .error e
  | 1 =>
    match h : skipN buf 8 pos with
    | .ok q => .ok ⟨q, by have := skipN_spec h; omega⟩
    | .error e => .error e
  | 2 =>
    match h : uint32 buf pos with
    | .error e => .error e
    | .ok (length, p) =>
      match h' : skipN buf length.val p with
      | .ok q => .ok ⟨q, by have := uint32_spec h; have := skipN_spec h'; omega⟩
      | .error e => .error e
  | 3 => skipGroup buf pos
  | 5 =>
    match h : skipN buf 4 pos with
    | .ok q => .ok ⟨q, by have := skipN_spec h; omega⟩
    | .error e => .error e
  | _ => .error (.invalidWireType wireType pos)
termination_by 2 * (buf.length - pos) + 1

/-- The `case 3` loop of `skipType`: `while ((wireType = this.uint32() & 7) !== 4)
this.skipType(wireType)`. -/
def skipGroup (buf : Bytes) (pos : Nat) : Except DecodeError (After buf pos) :=
  match h : uint32 buf pos with
  | .error e => .error e
  | .ok (tag, p) =>
    if tag.val % 8 = 4 then .ok ⟨p, uint32_spec h⟩
    else
      match skipType buf (tag.val % 8) p with
      | .error e => .error e
      | .ok q =>
        match skipGroup buf q.val with
        | .error e => .error e
        | .ok r => .ok ⟨r.val, by have := uint32_spec h; have := q.2; have := r.2; omega⟩
termination_by 2 * (buf.length - pos)
decreasing_by
  all_goals simp_wf
  · have := uint32_spec h
    omega
  · have := uint32_spec h
    have := q.2
    omega

end

end Reader
end Chronik
