import Chronik.Proto.Grammar

/-! # Unknown groups

`skipType(3)` skips a group: it reads tags and skips what each announces until a tag of wire type
4, whatever its field number. Groups nest, so the unknown fields a decoder skips form a tree: a
record of `UnknownRecord`, or a group of a field number holding unknown fields of any number.

* `decode_accepts_unknown_groups`: every decoder accepts the encoding of a message followed by
  unknown fields of field numbers it does not declare, groups nested to any depth among them, and
  returns the message. Inside a group the field numbers are free: `skipGroup` never switches on
  them. -/

namespace Chronik
open Writer

/-- An unknown field as protobufjs skips it: a record, or a group (start tag of wire type 3, the
fields, end tag of wire type 4 under the same field number). -/
inductive UnknownField where
  | record (r : UnknownRecord)
  | group (fieldNumber : Nat) (fields : List UnknownField)

namespace UnknownField

mutual
/-- The tag, then the payload; a group's fields between its start and end tags. -/
def encode : UnknownField → Bytes
  | record r => r.encode
  | group n fields => Writer.uint32 (n * 8 + 3) ++ encodeAll fields ++ Writer.uint32 (n * 8 + 4)
def encodeAll : List UnknownField → Bytes
  | [] => []
  | f :: fields => encode f ++ encodeAll fields
end

def fieldNumber : UnknownField → Nat
  | record r => r.fieldNumber
  | group n _ => n

def wireType : UnknownField → Nat
  | record r => r.wireType
  | group .. => 3

/-- The bytes after the tag; a group's end with its end tag. -/
def payload : UnknownField → Bytes
  | record r => r.payload
  | group n fields => encodeAll fields ++ Writer.uint32 (n * 8 + 4)

theorem encode_eq (f : UnknownField) : f.encode = Writer.uint32 (f.fieldNumber * 8 + f.wireType) ++ f.payload := by
  cases f with
  | record r => rfl
  | group n fields => simp only [encode, payload, fieldNumber, wireType, List.append_assoc]

theorem encodeAll_eq : ∀ fields : List UnknownField, encodeAll fields = fields.flatMap encode
  | [] => rfl
  | f :: fields => by rw [encodeAll, encodeAll_eq fields, List.flatMap_cons]

theorem wireType_lt (f : UnknownField) : f.wireType < 8 ∧ f.wireType ≠ 4 := by
  cases f with
  | record r => cases r <;> simp [wireType, UnknownRecord.wireType]
  | group => simp [wireType]

/-- Every field number fits the 29 bits a tag holds, at every depth. -/
inductive Fits : UnknownField → Prop
  | record {r : UnknownRecord} : r.fieldNumber < 2 ^ 29 → Fits (record r)
  | group {n : Nat} {fields : List UnknownField} : n < 2 ^ 29 → (∀ f ∈ fields, Fits f) → Fits (group n fields)

theorem Fits.fieldNumber_lt {f : UnknownField} (h : f.Fits) : f.fieldNumber < 2 ^ 29 := by
  cases h <;> assumption

end UnknownField

namespace Reader

/-- `skipGroup` by its loop: the tag, then the end, or a skip and the rest of the group. -/
theorem skipGroup_val (buf : Bytes) (pos : Nat) : (skipGroup buf pos).map Subtype.val =
    match uint32 buf pos with
    | .error e => .error e
    | .ok (tag, p) =>
      if tag.val % 8 = 4 then .ok p
      else match (skipType buf (tag.val % 8) p).map Subtype.val with
        | .error e => .error e
        | .ok q => (skipGroup buf q).map Subtype.val := by
  rw [skipGroup]
  split
  · rename_i e h; simp only [h]; rfl
  · rename_i tag p h
    simp only [h]
    split
    · rfl
    · cases skipType buf (tag.val % 8) p with
      | error e => rfl
      | ok q =>
        dsimp only [Except.map]
        cases skipGroup buf q.val <;> rfl

end Reader

/-- Reader `uint32` reads a tag that `Writer.uint32` wrote. -/
theorem uint32_tag {t : Nat} (ht : t < 2 ^ 32) (pre post : Bytes) :
    Reader.uint32 (pre ++ Writer.uint32 t ++ post) pre.length = .ok (⟨t, ht⟩, pre.length + (Writer.uint32 t).length) := by
  rw [uint32_eq_varint ht]
  exact uint32_varint ht pre post

/-- Skipping wire type `wt` over `w` is the reader's `skipType` stepping over `w` in any buffer. -/
theorem reads_skipType_iff {wt : Nat} {w : Bytes} : Reads (Act.skipType wt) w () ↔
    ∀ pre post, (Reader.skipType (pre ++ w ++ post) wt pre.length).map Subtype.val = .ok (pre.length + w.length) := by
  refine forall₂_congr fun pre post => ?_
  show (Reader.skipType _ wt _).map _ = _ ↔ _
  cases Reader.skipType (pre ++ w ++ post) wt pre.length <;> simp [Except.map]

/-- The end tag closes the group. -/
theorem skipGroup_end {n : Nat} (hn : n < 2 ^ 29) (pre post : Bytes) :
    (Reader.skipGroup (pre ++ Writer.uint32 (n * 8 + 4) ++ post) pre.length).map Subtype.val =
      .ok (pre.length + (Writer.uint32 (n * 8 + 4)).length) := by
  rw [Reader.skipGroup_val, uint32_tag (by omega)]
  dsimp only
  rw [if_pos (by omega)]

/-- A field inside a group is skipped by its wire type and the loop goes on after it. -/
theorem skipGroup_field {f : UnknownField} (hn : f.fieldNumber < 2 ^ 29)
    (hr : Reads (Act.skipType f.wireType) f.payload ()) (pre post : Bytes) :
    (Reader.skipGroup (pre ++ f.encode ++ post) pre.length).map Subtype.val =
      (Reader.skipGroup (pre ++ f.encode ++ post) (pre ++ f.encode).length).map Subtype.val := by
  obtain ⟨hw, h4⟩ := f.wireType_lt
  have ht : f.fieldNumber * 8 + f.wireType < 2 ^ 32 := by omega
  have hskip := reads_skipType_iff.mp hr (pre ++ Writer.uint32 (f.fieldNumber * 8 + f.wireType)) post
  rw [List.append_assoc (pre ++ _)] at hskip
  have hbuf : pre ++ f.encode ++ post =
      pre ++ Writer.uint32 (f.fieldNumber * 8 + f.wireType) ++ (f.payload ++ post) := by
    simp only [f.encode_eq, List.append_assoc]
  have hend : (pre ++ f.encode).length =
      (pre ++ Writer.uint32 (f.fieldNumber * 8 + f.wireType)).length + f.payload.length := by
    simp only [f.encode_eq, List.length_append, Nat.add_assoc]
  rw [hbuf, hend, Reader.skipGroup_val, uint32_tag ht]
  dsimp only
  rw [if_neg (by omega), show (f.fieldNumber * 8 + f.wireType) % 8 = f.wireType by omega,
    (List.length_append pre _).symm, hskip]

/-- The loop of `skipGroup` steps over a group's fields and its end tag. -/
theorem skipGroup_fields {n : Nat} (hn : n < 2 ^ 29) : ∀ (fields : List UnknownField),
    (∀ f ∈ fields, f.fieldNumber < 2 ^ 29 ∧ Reads (Act.skipType f.wireType) f.payload ()) → ∀ pre post,
    (Reader.skipGroup (pre ++ (UnknownField.encodeAll fields ++ Writer.uint32 (n * 8 + 4)) ++ post)
      pre.length).map Subtype.val =
      .ok (pre.length + (UnknownField.encodeAll fields ++ Writer.uint32 (n * 8 + 4)).length)
  | [], _, pre, post => skipGroup_end hn pre post
  | f :: fields, h, pre, post => by
    obtain ⟨hf, hr⟩ := h f (List.mem_cons_self f fields)
    have ih := skipGroup_fields hn fields (fun g hg => h g (List.mem_cons_of_mem f hg)) (pre ++ f.encode) post
    rw [List.append_assoc (pre ++ f.encode)] at ih
    have hbuf : pre ++ (UnknownField.encodeAll (f :: fields) ++ Writer.uint32 (n * 8 + 4)) ++ post =
        pre ++ f.encode ++ (UnknownField.encodeAll fields ++ Writer.uint32 (n * 8 + 4) ++ post) := by
      simp only [UnknownField.encodeAll, List.append_assoc]
    rw [hbuf, skipGroup_field hf hr, ih]
    simp only [UnknownField.encodeAll, List.length_append, Nat.add_assoc]

/-- `skipType` steps over every unknown field's payload, by induction on the nesting. -/
theorem UnknownField.reads_payload {f : UnknownField} (h : f.Fits) :
    Reads (Act.skipType f.wireType) f.payload () := by
  induction h with
  | record _ => exact UnknownRecord.reads_payload _
  | group hn hfs ih =>
    refine reads_skipType_iff.mpr fun pre post => ?_
    rw [show Reader.skipType (pre ++ payload _ ++ post) (wireType _) pre.length =
      Reader.skipGroup _ pre.length by rw [wireType, Reader.skipType]]
    exact skipGroup_fields hn _ (fun f hf => ⟨(hfs f hf).fieldNumber_lt, ih f hf⟩) pre post

/-- Every unknown field of a number the loop does not declare is skipped, leaving the message as
it is. -/
theorem loopReads_unknownFields (t : MsgType) (m : t.Message) :
    ∀ fs : List UnknownField, (∀ f ∈ fs, f.Fits ∧ f.fieldNumber ∉ t.fields) →
      LoopReads t.readField (fs.flatMap UnknownField.encode) m m
  | [], _ => LoopReads.nil m
  | f :: fs, h => by
    obtain ⟨hf, hu⟩ := h f (List.mem_cons_self f fs)
    have hn := hf.fieldNumber_lt
    obtain ⟨hw, _⟩ := f.wireType_lt
    refine LoopReads.append ?_ (loopReads_unknownFields t m fs fun g hg => h g (List.mem_cons_of_mem f hg))
    rw [f.encode_eq]
    refine LoopReads.record fun _ => ?_
    rw [Nat.mod_eq_of_lt (by omega), readField_undeclared t _ m
      (by rwa [show (f.fieldNumber * 8 + f.wireType) / 8 = f.fieldNumber by omega]),
      show (f.fieldNumber * 8 + f.wireType) % 8 = f.wireType by omega]
    exact (UnknownField.reads_payload hf).map _

/-- Every decoder accepts the encoding of a message followed by unknown fields of numbers it does
not declare, groups nested in any depth among them, and returns the message. -/
theorem decode_accepts_unknown_groups (t : MsgType) (m : t.Message) (hfit : t.LengthsFit m)
    (fs : List UnknownField) (hfs : ∀ f ∈ fs, f.Fits ∧ f.fieldNumber ∉ t.fields)
    (hlen : (t.encode m ++ fs.flatMap UnknownField.encode).length < 2 ^ 32) :
    t.decode (t.encode m ++ fs.flatMap UnknownField.encode) = .ok m := by
  rw [MsgType.decode_eq]
  exact ((t.loopReads_encode m hfit).append (loopReads_unknownFields t m fs hfs)).decode hlen

/-- A transaction with `version` 5 followed by the group 11, which holds a varint of field 1 (a
number the transaction declares, free inside a group) and the empty group 2, decodes to the
transaction. -/
theorem decode_tx_with_unknown_group :
    MsgType.tx.decode (MsgType.tx.encode ({ baseTx with version := 5 } : Tx) ++
      [UnknownField.group 11 [.record (.varint 1 300), .group 2 []]].flatMap UnknownField.encode) =
      .ok ({ baseTx with version := 5 } : Tx) :=
  decode_accepts_unknown_groups .tx { baseTx with version := 5 } (⟨by decide, by simp [baseTx],
    by simp [baseTx], by simp [baseTx], by simp [baseTx]⟩ : Tx.LengthsFit _)
    [.group 11 [.record (.varint 1 300), .group 2 []]]
    (by simp only [List.mem_singleton, forall_eq]; exact ⟨.group (by decide) (by
      simp only [List.mem_cons, List.mem_nil_iff, or_false, forall_eq_or_imp, forall_eq]
      exact ⟨.record (by decide), .group (by decide) nofun⟩), by decide⟩) (by decide)

end Chronik
