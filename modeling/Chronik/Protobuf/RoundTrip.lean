import Chronik.Protobuf.Decoder
import Chronik.Protobuf.Primitives

/-! # Decoding what was encoded

The round trip of a message is built from its fields. `Reads x w a` says that the read `x`
returns `a` from the bytes `w` wherever they lie, and stops right after them; each `Act` of
`Decoder` reads what the matching `Writer` method wrote (`reads_bytes`, ...). `LoopReads field w m
m'` says that the decode loop, started in state `m` on the records `w` and bounded by any end at
or past them, reaches state `m'` at their end. One lemma per kind of field (`LoopReads.bytes`,
`LoopReads.repeated`, ...) turns a field's write into a step of the loop, `LoopReads.append` chains
the fields of an `encode` in order, and `LoopReads.decode` closes the loop at the end of the
buffer (`LoopReads.decode_error`: or throws what the next step throws).

Lengths are `uint32`s on the wire, so every lemma holds of writes shorter than `2 ^ 32` bytes. -/

namespace Chronik
open Writer

/-- The read `x` returns `a` from the bytes `w`, wherever they lie, and stops right after them. -/
def Reads {α : Type} (x : Act α) (w : Bytes) (a : α) : Prop :=
  ∀ pre post : Bytes, x.run (pre ++ w ++ post) pre.length = .ok (a, pre.length + w.length)

theorem Reads.map {α β : Type} {x : Act α} {w : Bytes} {a : α} (f : α → β) (h : Reads x w a) :
    Reads (f <$> x) w (f a) := by
  intro pre post
  rw [Act.run_map, h pre post]

/-! ### Scalars -/

theorem reads_uint32 (v : Uint32) : Reads Act.uint32 (Writer.uint32 v.val) v := by
  intro pre post
  rw [uint32_eq_varint v.isLt]
  exact uint32_varint v.isLt pre post

theorem reads_int32 (v : Int32) : Reads Act.int32 (Writer.int32 v) v :=
  int32_read v

theorem reads_bool (v : Bool) : Reads Act.bool (Writer.bool v) v := fun pre post =>
  bool_read v pre post

theorem reads_int64 (v : Long) : Reads Act.int64 (Writer.int64 v) v :=
  readLongVarint_varint v

theorem reads_bytes {v : Bytes} (h : v.length < 2 ^ 32) : Reads Act.bytes (Writer.bytes v) v :=
  bytes_read h

theorem reads_string {v : String} (h : (Writer.utf8 v).length < 2 ^ 32) :
    Reads Act.string (Writer.string v) v :=
  string_read h

theorem utf8_length_le_string (v : String) : (Writer.utf8 v).length ≤ (Writer.string v).length := by
  unfold Writer.string
  split
  · omega
  · simp

/-! ### Skipped payloads

`reader.skipType(wireType)` passes over a payload well formed for its wire type: a varint, a
length-delimited payload, or eight or four bytes. -/

theorem reads_skipType_varint (n : Nat) : Reads (Act.skipType 0) (varint n) () := by
  intro pre post
  show (Reader.skipType _ 0 _).map _ = _
  unfold Reader.skipType
  split
  · rename_i q hq
    rw [skipVarint_varint] at hq
    cases hq
    rfl
  · rename_i e he
    rw [skipVarint_varint] at he
    cases he

theorem reads_skipType_delimited {w : Bytes} (h : w.length < 2 ^ 32) :
    Reads (Act.skipType 2) (varint w.length ++ w) () := by
  intro pre post
  show (Reader.skipType _ 2 _).map _ = _
  unfold Reader.skipType
  rw [show pre ++ (varint w.length ++ w) ++ post = pre ++ varint w.length ++ (w ++ post) by simp]
  split
  · rename_i e he
    rw [uint32_varint h] at he
    cases he
  · rename_i length p hu
    rw [uint32_varint h] at hu
    cases hu
    split
    · rename_i q hq
      rw [Reader.skipN, if_neg (by simp; omega)] at hq
      cases hq
      simp [Except.map, Nat.add_assoc]
    · rename_i e he
      rw [Reader.skipN, if_neg (by simp; omega)] at he
      cases he

theorem reads_skipType_bytes {v : Bytes} (h : v.length < 2 ^ 32) :
    Reads (Act.skipType 2) (Writer.bytes v) () := by
  rw [bytes_eq_delimited h]
  exact reads_skipType_delimited h

theorem reads_skipType_fixed {wireType : Nat} {w : Bytes}
    (h : wireType = 1 ∧ w.length = 8 ∨ wireType = 5 ∧ w.length = 4) :
    Reads (Act.skipType wireType) w () := by
  intro pre post
  show (Reader.skipType _ _ _).map _ = _
  rcases h with ⟨rfl, hw⟩ | ⟨rfl, hw⟩ <;>
  · unfold Reader.skipType
    split
    · rename_i q hq
      rw [Reader.skipN, if_neg (by simp; omega)] at hq
      cases hq
      rw [hw]
      rfl
    · rename_i e he
      rw [Reader.skipN, if_neg (by simp; omega)] at he
      cases he

/-! ### The loop over records -/

section Loop
variable {M : Type} {field : Nat → M → Act M}

/-- From state `m`, the decode loop reads the records `w`, stopping at any end at or past them,
and is then in state `m'` at their end. Irreducible: the field chains of `Proto/*` are checked by
the lemmas below, never by unfolding the loop. -/
@[irreducible] def LoopReads (field : Nat → M → Act M) (w : Bytes) (m m' : M) : Prop :=
  w.length < 2 ^ 32 → ∀ pre post : Bytes, ∀ stop, pre.length + w.length ≤ stop →
    Act.loop field stop (pre ++ w ++ post) m pre.length =
      Act.loop field stop (pre ++ w ++ post) m' (pre.length + w.length)

theorem LoopReads.nil (m : M) : LoopReads field [] m m := by
  unfold LoopReads
  simp

theorem LoopReads.append {w₁ w₂ : Bytes} {m₁ m₂ m₃ : M} (h₁ : LoopReads field w₁ m₁ m₂)
    (h₂ : LoopReads field w₂ m₂ m₃) : LoopReads field (w₁ ++ w₂) m₁ m₃ := by
  unfold LoopReads at h₁ h₂ ⊢
  intro hw pre post stop hs
  simp only [List.length_append] at hw hs
  have e₁ := h₁ (by omega) pre (w₂ ++ post) stop (by omega)
  have e₂ := h₂ (by omega) (pre ++ w₁) post stop (by simp only [List.length_append]; omega)
  simp only [List.append_assoc, List.length_append] at e₁ e₂ ⊢
  rw [e₁, e₂, Nat.add_assoc]

/-- One record: the tag, then a payload that the tag's case of the `switch` reads. -/
theorem LoopReads.record {tag : Nat} {w : Bytes} {m m' : M}
    (h : w.length < 2 ^ 32 → Reads (field (tag % 2 ^ 32) m) w m') :
    LoopReads field (Writer.uint32 tag ++ w) m m' := by
  unfold LoopReads
  intro hw pre post stop hs
  have ht : tag % 2 ^ 32 < 2 ^ 32 := Nat.mod_lt _ (by decide)
  have hlen := varint_length_pos (tag % 2 ^ 32)
  simp only [Writer.uint32, List.length_append] at hw hs
  have hbuf : pre ++ (Writer.uint32 tag ++ w) ++ post = pre ++ varint (tag % 2 ^ 32) ++ (w ++ post) := by
    simp [Writer.uint32]
  have hpos : pre.length + (varint (tag % 2 ^ 32)).length = (pre ++ varint (tag % 2 ^ 32)).length := by
    simp
  have hstep : Act.step field (pre ++ (Writer.uint32 tag ++ w) ++ post) m pre.length =
      .ok (m', pre.length + (Writer.uint32 tag ++ w).length) := by
    rw [Act.step, hbuf, uint32_varint ht]
    dsimp only
    rw [hpos, ← List.append_assoc, h (by omega), List.length_append, Writer.uint32]
    simp only [List.length_append, Nat.add_assoc]
  rw [Act.loop_step (by omega) hstep]

/-- A field written only when `present`: its record when it is; nothing when it holds its default,
which leaves the state as it is. -/
theorem LoopReads.scalar {α : Type} {x : Act α} {tag : Nat} {present : Bool} {payload : Bytes} {v : α}
    {set : M → α → M} {m : M} (hf : ∀ s, field (tag % 2 ^ 32) s = set s <$> x)
    (hr : payload.length < 2 ^ 32 → Reads x payload v) (hd : present = false → set m v = m) :
    LoopReads field (Writer.field tag present payload) m (set m v) := by
  cases present with
  | false =>
    rw [hd rfl]
    exact LoopReads.nil m
  | true => exact LoopReads.record fun hp => by rw [hf]; exact (hr hp).map (set m)

theorem LoopReads.bytes {tag : Nat} {v : Bytes} {set : M → Bytes → M} {m : M}
    (hf : ∀ s, field (tag % 2 ^ 32) s = set s <$> Act.bytes) (hd : set m [] = m) (hv : v.length < 2 ^ 32) :
    LoopReads field (bytesField tag v) m (set m v) :=
  LoopReads.scalar hf (fun _ => reads_bytes hv) fun h => by
    have : v = [] := List.length_eq_zero.mp (by simpa using h)
    rw [this]
    exact hd

theorem LoopReads.string {tag : Nat} {v : String} {set : M → String → M} {m : M}
    (hf : ∀ s, field (tag % 2 ^ 32) s = set s <$> Act.string) (hd : set m "" = m) :
    LoopReads field (stringField tag v) m (set m v) :=
  LoopReads.scalar hf (fun hp => reads_string (Nat.lt_of_le_of_lt (utf8_length_le_string v) hp))
    fun h => by
      rw [show v = "" by simpa using h]
      exact hd

theorem LoopReads.int32 {tag : Nat} {v : Int32} {set : M → Int32 → M} {m : M}
    (hf : ∀ s, field (tag % 2 ^ 32) s = set s <$> Act.int32) (hd : set m 0 = m) :
    LoopReads field (int32Field tag v) m (set m v) :=
  LoopReads.scalar hf (fun _ => reads_int32 v) fun h => by
    rw [show v = 0 by simpa using h]
    exact hd

theorem LoopReads.uint32 {tag : Nat} {v : Uint32} {set : M → Uint32 → M} {m : M}
    (hf : ∀ s, field (tag % 2 ^ 32) s = set s <$> Act.uint32) (hd : set m 0 = m) :
    LoopReads field (uint32Field tag v) m (set m v) :=
  LoopReads.scalar hf (fun _ => reads_uint32 v) fun h => by
    rw [show v = 0 by simpa using h]
    exact hd

theorem LoopReads.long {tag : Nat} {v : Long} {set : M → Long → M} {m : M}
    (hf : ∀ s, field (tag % 2 ^ 32) s = set s <$> Act.int64) (hd : set m 0 = m) :
    LoopReads field (longField tag v) m (set m v) :=
  LoopReads.scalar hf (fun _ => reads_int64 v) fun h => by
    rw [show v = 0 by simpa using h]
    exact hd

theorem LoopReads.bool {tag : Nat} {v : Bool} {set : M → Bool → M} {m : M}
    (hf : ∀ s, field (tag % 2 ^ 32) s = set s <$> Act.bool) (hd : set m false = m) :
    LoopReads field (boolField tag v) m (set m v) :=
  LoopReads.scalar hf (fun _ => reads_bool v) fun h => by
    rw [h]
    exact hd

/-- A field the `switch` does not know: the `default` case skips its payload by the tag's wire type
and leaves the state as it is. -/
theorem LoopReads.skipped {tag wireType : Nat} {present : Bool} {payload : Bytes} {m : M}
    (hf : ∀ s, field (tag % 2 ^ 32) s = (fun _ => s) <$> Act.skipType wireType)
    (hr : payload.length < 2 ^ 32 → Reads (Act.skipType wireType) payload ()) :
    LoopReads field (Writer.field tag present payload) m m :=
  LoopReads.scalar hf hr fun _ => rfl

/-! ### Sub-messages -/

/-- A sub-message read by `M.decode(reader, reader.uint32())` from its `fork()`/`ldelim()` write. -/
theorem reads_nested {N : Type} {field' : Nat → N → Act N} {base : N} {w : Bytes} {v : N}
    (h : LoopReads field' w base v) (hw : w.length < 2 ^ 32) :
    Reads (Act.nested field' base) (Writer.ldelim w) v := by
  intro pre post
  have hbuf : pre ++ Writer.ldelim w ++ post = pre ++ varint w.length ++ (w ++ post) := by
    simp [Writer.ldelim, uint32_eq_varint hw]
  have hpos : pre.length + (varint w.length).length = (pre ++ varint w.length).length := by
    simp
  unfold LoopReads at h
  have hloop := h hw (pre ++ varint w.length) post _ (Nat.le_refl _)
  rw [Act.nested, Act.run_bind, hbuf, show Act.uint32.run = Reader.uint32 from rfl, uint32_varint hw]
  simp only [Act.message]
  rw [hpos, ← List.append_assoc, hloop, Act.loop_of_not_lt (Nat.lt_irrefl _)]
  simp [Writer.ldelim, uint32_eq_varint hw, Nat.add_assoc]

theorem LoopReads.optional {N : Type} {field' : Nat → N → Act N} {base : N} {encode : N → Bytes}
    {tag : Nat} {o : Option N} {m : M} (set : M → Option N → M)
    (hf : ∀ s, field (tag % 2 ^ 32) s = (fun v => set s (some v)) <$> Act.nested field' base)
    (hd : set m none = m) (hv : ∀ v ∈ o, LoopReads field' (encode v) base v) :
    LoopReads field (messageField tag encode o) m (set m o) := by
  cases o with
  | none =>
    rw [hd]
    exact LoopReads.nil m
  | some v =>
    refine LoopReads.record fun hw => ?_
    rw [hf]
    exact (reads_nested (hv v rfl) (by simp only [Writer.ldelim, List.length_append] at hw; omega)).map _

/-- The elements of a repeated field, one record each, pushed after the elements already read. -/
theorem LoopReads.repeated_from {N : Type} {field' : Nat → N → Act N} {base : N} {encode : N → Bytes}
    {tag : Nat} {m : M} (set : M → List N → M)
    (hf : ∀ s xs, field (tag % 2 ^ 32) (set s xs) = (fun v => set s (xs ++ [v])) <$> Act.nested field' base) :
    ∀ {vs : List N}, (∀ v ∈ vs, LoopReads field' (encode v) base v) →
      ∀ xs, LoopReads field (repeatedField tag encode vs) (set m xs) (set m (xs ++ vs))
  | [], _, xs => by
    rw [List.append_nil]
    exact LoopReads.nil _
  | v :: vs, hv, xs => by
    have hrest := LoopReads.repeated_from (m := m) set hf (fun u hu => hv u (List.mem_cons_of_mem v hu)) (xs ++ [v])
    rw [List.append_assoc, List.singleton_append] at hrest
    refine LoopReads.append (LoopReads.record fun hw => ?_) hrest
    rw [hf]
    exact (reads_nested (hv v (List.mem_cons_self v vs))
      (by simp only [Writer.ldelim, List.length_append] at hw; omega)).map _

theorem LoopReads.repeated {N : Type} {field' : Nat → N → Act N} {base : N} {encode : N → Bytes}
    {tag : Nat} {vs : List N} {m : M} (set : M → List N → M)
    (hf : ∀ s xs, field (tag % 2 ^ 32) (set s xs) = (fun v => set s (xs ++ [v])) <$> Act.nested field' base)
    (hd : set m [] = m) (hv : ∀ v ∈ vs, LoopReads field' (encode v) base v) :
    LoopReads field (repeatedField tag encode vs) m (set m vs) := by
  simpa [hd] using LoopReads.repeated_from (m := m) set hf hv []

/-! ### Whole messages -/

/-- The loop from the initial message over its own encoding: `M.decode(M.encode(m).finish())`. -/
theorem LoopReads.decode {w : Bytes} {base m : M} (h : LoopReads field w base m) (hw : w.length < 2 ^ 32) :
    Act.decode field base w = .ok m := by
  unfold LoopReads at h
  have hloop := h hw [] [] w.length (by simp)
  simp only [List.nil_append, List.append_nil, List.length_nil, Nat.zero_add] at hloop
  rw [Act.decode, hloop, Act.loop_of_not_lt (Nat.lt_irrefl _)]
  rfl

/-- Past the records `w` the loop takes one more step; when that step throws, so does `decode`. -/
theorem LoopReads.decode_error {w tail : Bytes} {base m : M} {e : DecodeError}
    (h : LoopReads field w base m) (hw : w.length < 2 ^ 32) (htail : tail ≠ [])
    (hs : Act.step field (w ++ tail) m w.length = .error e) : Act.decode field base (w ++ tail) = .error e := by
  unfold LoopReads at h
  have hloop := h hw [] tail (w ++ tail).length (by simp)
  simp only [List.nil_append, List.length_nil, Nat.zero_add] at hloop
  rw [Act.decode, hloop, Act.loop_error (by simpa using List.length_pos.mpr htail) hs]
  rfl

end Loop

end Chronik
