import Chronik.Protobuf.Reader
import Mathlib.Algebra.Order.Group.Nat
import Mathlib.Algebra.Ring.Nat
import Mathlib.Tactic.Ring

/-! # Reading back what the writer wrote

Each read of `Reader` returns what the matching method of `Writer` wrote, wherever the written
bytes lie in the buffer (`pre ++ w ++ post`, read at `pre.length`), and stops right after them.
A varint is read by `scan`, on the fast paths and on the slow ones; a negative `int32` is written as
ten bytes, of which `uint32` reads five and skips five. -/

namespace Chronik
open Writer Reader

/-! ### Varints -/

theorem varint_length_pos (n : Nat) : 0 < (varint n).length := by
  by_cases h : n < 128
  · simp [varint_of_lt h]
  · simp [varint_of_ge (not_lt.mp h)]

/-- A value below `128 ^ (k + 1)` takes at most `k + 1` bytes, one of at least `128 ^ k` at least
`k + 1`. -/
theorem varint_length_le : ∀ {k n : Nat}, n < 128 ^ (k + 1) → (varint n).length ≤ k + 1
  | 0, n, h => by rw [varint_of_lt (by simpa using h)]; rfl
  | k + 1, n, h => by
    by_cases hn : n < 128
    · rw [varint_of_lt hn]
      simp
    · rw [varint_of_ge (by omega), List.length_cons]
      have := varint_length_le (k := k) (n := n / 128) (by
        rw [Nat.div_lt_iff_lt_mul (by decide), ← Nat.pow_succ]
        exact h)
      omega

theorem varint_length_ge : ∀ {k n : Nat}, 128 ^ k ≤ n → k + 1 ≤ (varint n).length
  | 0, n, _ => varint_length_pos n
  | k + 1, n, h => by
    have h128 : 128 ≤ n := Nat.le_trans (Nat.le_mul_of_pos_left 128 (Nat.pos_pow_of_pos k (by decide))) h
    rw [varint_of_ge h128, List.length_cons]
    have := varint_length_ge (k := k) (n := n / 128) (by
      rw [Nat.le_div_iff_mul_le (by decide), ← Nat.pow_succ]
      exact h)
    omega

/-- The first `k` bytes of a varint of at least `k + 1` bytes, and the varint of what they leave. -/
theorem varint_split : ∀ {k n : Nat}, 128 ^ k ≤ n →
    varint n = (varint n).take k ++ varint (n / 128 ^ k) ∧ ((varint n).take k).length = k
  | 0, n, _ => by simp
  | k + 1, n, h => by
    have h128 : 128 ≤ n := Nat.le_trans (Nat.le_mul_of_pos_left 128 (Nat.pos_pow_of_pos k (by decide))) h
    obtain ⟨h1, h2⟩ := varint_split (k := k) (n := n / 128) (by
      rw [Nat.le_div_iff_mul_le (by decide), ← Nat.pow_succ]
      exact h)
    have hd : n / 128 ^ (k + 1) = n / 128 / 128 ^ k := by
      rw [Nat.div_div_eq_div_mul, ← Nat.pow_succ']
    rw [varint_of_ge h128, List.take_succ_cons, List.length_cons, h2, List.cons_append, hd, ← h1]
    exact ⟨rfl, rfl⟩

/-! ### Bytes in the middle of a buffer -/

theorem getElem?_mid_head (pre post : Bytes) (b : UInt8) (w : Bytes) :
    (pre ++ b :: w ++ post)[pre.length]? = some b := by
  rw [List.append_assoc, List.getElem?_append_right (Nat.le_refl _), Nat.sub_self, List.cons_append]
  simp

theorem toNat_ofNat {n : Nat} (h : n < 256) : (UInt8.ofNat n).toNat = n :=
  UInt8.toNat_ofNat_of_lt h

theorem low7_varint_head (pre post : Bytes) (n : Nat) :
    low7 (pre ++ varint n ++ post) pre.length = n % 128 := by
  by_cases hn : n < 128
  · rw [varint_of_lt hn, low7, getElem?_mid_head]
    dsimp only
    rw [toNat_ofNat (by omega)]
  · rw [varint_of_ge (by omega), low7, getElem?_mid_head]
    dsimp only
    rw [toNat_ofNat (by omega)]
    omega

theorem more_varint_head (pre post : Bytes) (n : Nat) :
    more (pre ++ varint n ++ post) pre.length = decide (128 ≤ n) := by
  by_cases hn : n < 128
  · rw [varint_of_lt hn, more, getElem?_mid_head]
    dsimp only
    rw [toNat_ofNat (by omega)]
  · rw [varint_of_ge (by omega), more, getElem?_mid_head]
    dsimp only
    rw [toNat_ofNat (by omega)]
    simp only [decide_eq_decide]
    omega

theorem cons_mid (pre post : Bytes) (b : UInt8) (w : Bytes) :
    pre ++ b :: w ++ post = (pre ++ [b]) ++ w ++ post := by
  simp

/-! ### Scans -/

/-- A scan with room for the whole varint reads all of it. -/
theorem scan_varint : ∀ (n fuel i acc : Nat) (pre post : Bytes), (varint n).length ≤ fuel →
    scan (pre ++ varint n ++ post) fuel i acc pre.length =
      (acc + n * 128 ^ i, pre.length + (varint n).length, true) := by
  intro n
  induction n using Nat.strong_induction_on with
  | _ n ih =>
  intro fuel i acc pre post hf
  obtain ⟨f, rfl⟩ : ∃ f, fuel = f + 1 := ⟨fuel - 1, by have := varint_length_pos n; omega⟩
  rw [scan, more_varint_head, low7_varint_head]
  by_cases hn : n < 128
  · rw [if_neg (by simp; omega), Nat.mod_eq_of_lt hn, varint_of_lt hn]
    rfl
  · rw [if_pos (by simp; omega)]
    have hv := varint_of_ge (n := n) (by omega)
    rw [hv, List.length_cons] at hf ⊢
    rw [cons_mid, show pre.length + 1 = (pre ++ [UInt8.ofNat (n % 128 + 128)]).length by simp,
      ih (n / 128) (by omega) f (i + 1) _ _ post (by omega)]
    simp only [List.length_append, List.length_singleton, Prod.mk.injEq, and_true]
    refine ⟨?_, by omega⟩
    have := Nat.div_add_mod n 128
    rw [Nat.pow_succ]
    calc acc + n % 128 * 128 ^ i + n / 128 * (128 ^ i * 128)
        = acc + (128 * (n / 128) + n % 128) * 128 ^ i := by ring
      _ = acc + n * 128 ^ i := by rw [this]

/-- A scan of `k` bytes of a longer varint reads its low `7 * k` bits. -/
theorem scan_varint_low : ∀ (k n i acc : Nat) (pre post : Bytes), 128 ^ k ≤ n →
    scan (pre ++ varint n ++ post) k i acc pre.length = (acc + n % 128 ^ k * 128 ^ i, pre.length + k, false)
  | 0, n, i, acc, pre, post, _ => by simp [scan, Nat.mod_one]
  | k + 1, n, i, acc, pre, post, h => by
    have h128 : 128 ≤ n := Nat.le_trans (Nat.le_mul_of_pos_left 128 (Nat.pos_pow_of_pos k (by decide))) h
    rw [scan, more_varint_head, low7_varint_head, if_pos (by simp; omega), varint_of_ge h128, cons_mid,
      show pre.length + 1 = (pre ++ [UInt8.ofNat (n % 128 + 128)]).length by simp, scan_varint_low k (n / 128) (i + 1) _ _ post (by
        rw [Nat.le_div_iff_mul_le (by decide), ← Nat.pow_succ]
        exact h)]
    simp only [List.length_append, List.length_singleton, Prod.mk.injEq, and_true]
    refine ⟨?_, by omega⟩
    have hm : n % 128 ^ (k + 1) = n % 128 + 128 * (n / 128 % 128 ^ k) := by
      rw [Nat.pow_succ', Nat.mod_mul]
    rw [hm, Nat.pow_succ]
    ring

/-- Protobufjs `Reader.skip()` passes over a whole varint. -/
theorem skipVarint_varint (n : Nat) : ∀ pre post : Bytes,
    skipVarint (pre ++ varint n ++ post) pre.length = .ok (pre.length + (varint n).length) := by
  induction n using Nat.strong_induction_on with
  | _ n ih =>
  intro pre post
  have hin : pre.length < (pre ++ varint n ++ post).length := by
    have := varint_length_pos n
    simp only [List.length_append]
    omega
  rw [skipVarint, if_neg (by omega), more_varint_head]
  by_cases hn : n < 128
  · rw [if_neg (by simpa using hn), varint_of_lt hn]
    rfl
  · rw [if_pos (by simpa using hn), varint_of_ge (by omega), cons_mid,
      show pre.length + 1 = (pre ++ [UInt8.ofNat (n % 128 + 128)]).length by simp, ih (n / 128) (by omega)]
    simp only [List.length_append, List.length_singleton, List.length_cons, List.length_nil, Except.ok.injEq]
    omega

/-- Where `scan` stays inside the buffer, the checked scan of the slow paths agrees with it. -/
theorem scanChecked_of_scan {buf : Bytes} : ∀ {n i acc pos v q b},
    scan buf n i acc pos = (v, q, b) → q ≤ buf.length → scanChecked buf n i acc pos = .ok (v, q, b)
  | 0, _, _, _, _, _, _, h, _ => by cases h; rfl
  | n + 1, i, acc, pos, v, q, b, h, hq => by
    unfold scan at h
    unfold scanChecked
    split at h
    · have := scan_le h
      rw [if_neg (by omega), if_pos ‹_›]
      exact scanChecked_of_scan h hq
    · cases h
      rw [if_neg (by omega), if_neg ‹_›]

end Chronik

namespace Chronik
open Writer Reader

/-! ### Reads of written values -/

theorem Int32.ext {a b : Int32} (h : a.val = b.val) : a = b := by
  cases a
  cases b
  cases h
  rfl

theorem varint_length_le_five {n : Nat} (h : n < 2 ^ 32) : (varint n).length ≤ 5 :=
  varint_length_le (k := 4) (Nat.lt_of_lt_of_le h (by decide))

theorem varint_length_le_ten {n : Nat} (h : n < 2 ^ 64) : (varint n).length ≤ 10 :=
  varint_length_le (k := 9) (Nat.lt_of_lt_of_le h (by decide))

theorem mid_length (pre w post : Bytes) : pre.length + w.length ≤ (pre ++ w ++ post).length := by
  simp

/-- Reader `uint32` reads a varint of at most 32 bits. -/
theorem uint32_varint {n : Nat} (hn : n < 2 ^ 32) (pre post : Bytes) :
    Reader.uint32 (pre ++ varint n ++ post) pre.length = .ok (⟨n, hn⟩, pre.length + (varint n).length) := by
  rw [Reader.uint32, scan_varint n 5 0 0 pre post (varint_length_le_five hn)]
  dsimp only
  rw [pow_zero, Nat.mul_one, Nat.zero_add]
  simp only [Nat.mod_eq_of_lt hn]

theorem uint32_eq_varint {n : Nat} (hn : n < 2 ^ 32) : Writer.uint32 n = varint n := by
  rw [Writer.uint32, Nat.mod_eq_of_lt hn]

/-- Reader `int32` reads what `Writer.int32` wrote: five bytes of a ten-byte negative value, then five
skipped. -/
theorem int32_read (v : Int32) (pre post : Bytes) :
    Reader.int32 (pre ++ Writer.int32 v ++ post) pre.length = .ok (v, pre.length + (Writer.int32 v).length) := by
  have hlo := v.lo
  have hhi := v.hi
  unfold Writer.int32
  split
  · rename_i hneg
    set n := (v.val + 2 ^ 64).toNat with hn
    have h1 : 128 ^ 9 ≤ n := by omega
    have h2 : n < 128 ^ 10 := by omega
    have hlen : (varint n).length = 10 :=
      Nat.le_antisymm (varint_length_le (k := 9) h2) (varint_length_ge (k := 9) h1)
    have hs := scan_varint_low 5 n 0 0 pre post (Nat.le_trans (by decide) h1)
    have hb := mid_length pre (varint n) post
    rw [Reader.int32, Reader.uint32, hs, hlen]
    dsimp only
    rw [if_neg (by omega)]
    simp only [Except.map, Nat.pow_zero, Nat.mul_one, Nat.zero_add]
    congr 2
    apply Int32.ext
    unfold toInt32
    rw [dif_neg (by simp only; omega)]
    simp only
    omega
  · rename_i hnn
    have hv : v.val.toNat < 2 ^ 32 := by omega
    rw [uint32_eq_varint hv, Reader.int32, uint32_varint hv]
    simp only [Except.map]
    congr 2
    apply Int32.ext
    unfold toInt32
    rw [dif_pos (by simp only; omega)]
    simp only
    omega

/-- Reader `readLongVarint` reads a varint of at most 64 bits, on each of its paths. -/
theorem readLongVarint_varint (x : Long) (pre post : Bytes) :
    Reader.readLongVarint (pre ++ varint x.val ++ post) pre.length =
      .ok (x, pre.length + (varint x.val).length) := by
  have hx := x.isLt
  have hL := varint_length_le_ten hx
  have hb := mid_length pre (varint x.val) post
  have hlong : toLong x.val = x := Fin.ext (Nat.mod_eq_of_lt hx)
  unfold readLongVarint
  split
  · by_cases h5 : (varint x.val).length ≤ 5
    · rw [scan_varint _ 5 0 0 pre post h5]
      simp [hlong]
    · have h128 : 128 ^ 5 ≤ x.val := by
        by_contra hc
        exact h5 (varint_length_le (k := 4) (by omega))
      obtain ⟨hsplit, htake⟩ := varint_split h128
      rw [scan_varint_low 5 _ 0 0 pre post h128]
      have hrest : (varint (x.val / 128 ^ 5)).length ≤ 5 := by
        have := congrArg List.length hsplit
        rw [List.length_append, htake] at this
        omega
      have hbuf : pre ++ varint x.val ++ post = (pre ++ (varint x.val).take 5) ++ varint (x.val / 128 ^ 5) ++ post := by
        conv_lhs => rw [hsplit]
        simp
      have hpos : pre.length + 5 = (pre ++ (varint x.val).take 5).length := by simp [htake]
      have hs := scan_varint (x.val / 128 ^ 5) 5 5 (0 + x.val % 128 ^ 5 * 128 ^ 0)
        (pre ++ (varint x.val).take 5) post hrest
      rw [← hbuf, ← hpos] at hs
      have hval : 0 + x.val % 128 ^ 5 * 128 ^ 0 + x.val / 128 ^ 5 * 128 ^ 5 = x.val := by
        have := Nat.div_add_mod x.val (128 ^ 5)
        simp only [Nat.pow_zero, Nat.mul_one, Nat.zero_add]
        omega
      have hend : pre.length + 5 + (varint (x.val / 128 ^ 5)).length = pre.length + (varint x.val).length := by
        have := congrArg List.length hsplit
        rw [List.length_append, htake] at this
        omega
      dsimp only
      split_ifs
      · rw [hs]
        simp only [hval, hend, hlong]
      · rw [scanChecked_of_scan hs (by omega)]
        simp only [hval, hend, hlong]
  · rename_i hsmall
    have hL4 : (varint x.val).length ≤ 4 := by omega
    by_cases h3 : (varint x.val).length ≤ 3
    · rw [scanChecked_of_scan (scan_varint _ 3 0 0 pre post h3) (by omega)]
      simp [hlong]
    · have h128 : 128 ^ 3 ≤ x.val := by
        by_contra hc
        exact h3 (varint_length_le (k := 2) (by omega))
      have hlt : x.val < 128 ^ 4 := by
        by_contra hc
        have := varint_length_ge (k := 4) (n := x.val) (by omega)
        omega
      obtain ⟨hsplit, htake⟩ := varint_split h128
      rw [scanChecked_of_scan (scan_varint_low 3 _ 0 0 pre post h128) (by omega)]
      have hbuf : pre ++ varint x.val ++ post = (pre ++ (varint x.val).take 3) ++ varint (x.val / 128 ^ 3) ++ post := by
        conv_lhs => rw [hsplit]
        simp
      have hpos : pre.length + 3 = (pre ++ (varint x.val).take 3).length := by simp [htake]
      simp only
      rw [hbuf, hpos, low7_varint_head, ← hpos]
      have hval : 0 + x.val % 128 ^ 3 * 128 ^ 0 + x.val / 128 ^ 3 % 128 * 128 ^ 3 = x.val := by
        have := Nat.div_add_mod x.val (128 ^ 3)
        have : x.val / 128 ^ 3 < 128 := by
          rw [Nat.div_lt_iff_lt_mul (by decide)]
          omega
        simp only [Nat.pow_zero, Nat.mul_one, Nat.zero_add, Nat.mod_eq_of_lt this]
        omega
      rw [hval, hlong]
      simp only [Except.ok.injEq, Prod.mk.injEq, true_and]
      omega

/-- Reader `bool` reads the byte `Writer.bool` wrote. -/
theorem bool_read (b : Bool) (pre post : Bytes) :
    Reader.bool (pre ++ Writer.bool b ++ post) pre.length = .ok (b, pre.length + 1) := by
  have hv : Writer.bool b = varint (if b then 1 else 0) := by
    rw [varint_of_lt (by split <;> decide)]
    cases b <;> rfl
  rw [Reader.bool, hv, uint32_varint (by split <;> decide), varint_of_lt (by split <;> decide)]
  cases b <;> rfl

/-- A length-delimited payload: its length as a varint, then its bytes. -/
theorem delimited_read {w : Bytes} (h : w.length < 2 ^ 32) (pre post : Bytes) :
    Reader.bytes (pre ++ (varint w.length ++ w) ++ post) pre.length =
      .ok (w, pre.length + (varint w.length ++ w).length) := by
  rw [show pre ++ (varint w.length ++ w) ++ post = pre ++ varint w.length ++ (w ++ post) by simp,
    Reader.bytes, uint32_varint h]
  have hd : List.drop (pre.length + (varint w.length).length) (pre ++ varint w.length ++ (w ++ post)) =
      w ++ post := by
    rw [← List.length_append, List.drop_left]
  simp only [hd, List.take_left, List.length_append]
  rw [if_neg (by omega), Nat.add_assoc]

theorem bytes_eq_delimited {value : Bytes} (h : value.length < 2 ^ 32) :
    Writer.bytes value = varint value.length ++ value := by
  rw [Writer.bytes, Writer.uint32, Nat.mod_eq_of_lt h]
  split
  · rename_i h0
    rw [List.length_eq_zero.mp h0, List.length_nil, varint_of_lt (by decide)]
    rfl
  · rfl

/-- Reader `bytes` reads what `Writer.bytes` wrote, below `2 ^ 32` bytes. -/
theorem bytes_read {value : Bytes} (h : value.length < 2 ^ 32) (pre post : Bytes) :
    Reader.bytes (pre ++ Writer.bytes value ++ post) pre.length =
      .ok (value, pre.length + (Writer.bytes value).length) := by
  rw [bytes_eq_delimited h]
  exact delimited_read h pre post

/-! ### UTF-8 -/

theorem char_toNat_lt (c : Char) : c.toNat < 0x110000 := by
  have := c.valid
  unfold UInt32.isValidChar Nat.isValidChar at this
  unfold Char.toNat
  omega

/-- The code point the reader reassembles from the two, three or four bytes `utf8Char` writes. -/
theorem utf8_two_bytes {n : Nat} (h : n < 0x800) : (n / 64 + 192) % 32 * 64 + (n % 64 + 128) % 64 = n := by
  omega

theorem utf8_three_bytes {n : Nat} (h : n < 0x10000) :
    (n / 4096 + 224) % 16 * 4096 + (n / 64 % 64 + 128) % 64 * 64 + (n % 64 + 128) % 64 = n := by
  omega

theorem utf8_four_bytes {n : Nat} (h : n < 0x110000) :
    (n / 262144 + 240) % 8 * 262144 + (n / 4096 % 64 + 128) % 64 * 4096 + (n / 64 % 64 + 128) % 64 * 64 +
      (n % 64 + 128) % 64 = n := by
  omega

/-- Protobufjs's decoder reads back the bytes of one code point. -/
theorem utf8_utf8Char (c : Char) (rest : Bytes) :
    Reader.utf8 (utf8Char c ++ rest) = c :: Reader.utf8 rest := by
  have hc := char_toNat_lt c
  unfold utf8Char
  dsimp only
  split_ifs with h1 h2 h3
  · rw [List.singleton_append, Reader.utf8, toNat_ofNat (by omega), if_pos h1, Char.ofNat_toNat]
  · rw [List.cons_append, List.singleton_append, Reader.utf8]
    simp only [toNat_ofNat (show c.toNat / 64 + 192 < 256 by omega), List.getElem?_cons_zero,
      toNat_ofNat (show c.toNat % 64 + 128 < 256 by omega), List.drop_one, List.tail_cons]
    rw [if_neg (by omega), if_pos (by omega), utf8_two_bytes h2, Char.ofNat_toNat]
  · rw [List.cons_append, List.cons_append, List.singleton_append, Reader.utf8]
    simp only [toNat_ofNat (show c.toNat / 4096 + 224 < 256 by omega), List.getElem?_cons_zero,
      List.getElem?_cons_succ, toNat_ofNat (show c.toNat / 64 % 64 + 128 < 256 by omega),
      toNat_ofNat (show c.toNat % 64 + 128 < 256 by omega), List.drop_succ_cons, List.drop_zero]
    rw [if_neg (by omega), if_neg (by omega), if_neg (by omega), utf8_three_bytes h3, Char.ofNat_toNat]
  · rw [List.cons_append, List.cons_append, List.cons_append, List.singleton_append, Reader.utf8]
    simp only [toNat_ofNat (show c.toNat / 262144 + 240 < 256 by omega), List.getElem?_cons_zero,
      List.getElem?_cons_succ, toNat_ofNat (show c.toNat / 4096 % 64 + 128 < 256 by omega),
      toNat_ofNat (show c.toNat / 64 % 64 + 128 < 256 by omega),
      toNat_ofNat (show c.toNat % 64 + 128 < 256 by omega), List.drop_succ_cons, List.drop_zero]
    rw [if_neg (by omega), if_neg (by omega), if_pos (by omega), utf8_four_bytes hc, Char.ofNat_toNat]

theorem utf8_flatMap_utf8Char : ∀ cs : List Char, Reader.utf8 (cs.flatMap utf8Char) = cs
  | [] => by rw [List.flatMap_nil, Reader.utf8]
  | c :: cs => by rw [List.flatMap_cons, utf8_utf8Char, utf8_flatMap_utf8Char cs]

theorem string_eq_delimited {value : String} (h : (Writer.utf8 value).length < 2 ^ 32) :
    Writer.string value = varint (Writer.utf8 value).length ++ Writer.utf8 value := by
  rw [Writer.string, Writer.uint32, Nat.mod_eq_of_lt h]
  split
  · rename_i h0
    rw [h0, List.length_eq_zero.mp h0, varint_of_lt (by decide)]
    rfl
  · rfl

/-- Reader `string` reads what `Writer.string` wrote, below `2 ^ 32` bytes of UTF-8. -/
theorem string_read {value : String} (h : (Writer.utf8 value).length < 2 ^ 32) (pre post : Bytes) :
    Reader.string (pre ++ Writer.string value ++ post) pre.length =
      .ok (value, pre.length + (Writer.string value).length) := by
  rw [string_eq_delimited h, Reader.string, delimited_read h]
  simp only [Except.map, Writer.utf8, utf8_flatMap_utf8Char]
  rfl

end Chronik
