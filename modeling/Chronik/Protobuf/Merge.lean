import Chronik.Protobuf.RoundTrip

/-! # The decode loop from any state

`M.decode` starts from the initial message, but its loop reads each record into whatever message
it holds, so reading the encoding of `b` after that of `a` starts from `a`. Started in a state `m`
on a field's write, the loop sets the field to the written value, and leaves `m` as it is when the
encoder skipped a default value: a later value wins only when it was written. A sub-message record
sets the field to a new message decoded from its own initial message, so it replaces the one `m`
holds, where protobuf's `MergeFrom` would merge the two; a repeated field's records are pushed
after the elements `m` already holds.

One lemma per kind of field says so, for a field that `get` reads and `set` writes with
`set m (get m) = m`, which a record update `{ m with f := m.f }` meets by `rfl`. -/

namespace Chronik
open Writer

/-- The guard `value !== d` of a write, as the test the merge makes on the later value. -/
theorem ite_bne_eq {α β : Type} [BEq α] [LawfulBEq α] [DecidableEq α] (a d : α) (x y : β) :
    (if (a != d) = true then x else y) = if a = d then y else x := by
  by_cases h : a = d <;> simp [h]

section Loop
variable {M : Type} {field : Nat → M → Act M}

/-- A guarded field: its value when it was written, `m`'s own value otherwise. -/
theorem LoopReads.scalar_merge {α : Type} {x : Act α} {tag : Nat} {present : Bool} {payload : Bytes}
    {v : α} (get : M → α) {set : M → α → M} {m : M} (hf : ∀ s, field (tag % 2 ^ 32) s = set s <$> x)
    (hr : payload.length < 2 ^ 32 → Reads x payload v) (hd : set m (get m) = m) :
    LoopReads field (Writer.field tag present payload) m (set m (if present then v else get m)) := by
  cases present with
  | false =>
    rw [if_neg Bool.false_ne_true, hd]
    exact LoopReads.nil m
  | true => exact LoopReads.scalar hf hr nofun

theorem LoopReads.bytes_merge {tag : Nat} {v : Bytes} (get : M → Bytes) {set : M → Bytes → M} {m : M}
    (hf : ∀ s, field (tag % 2 ^ 32) s = set s <$> Act.bytes) (hd : set m (get m) = m)
    (hv : v.length < 2 ^ 32) :
    LoopReads field (bytesField tag v) m (set m (if v.length = 0 then get m else v)) := by
  rw [← ite_bne_eq]
  exact LoopReads.scalar_merge get hf (fun _ => reads_bytes hv) hd

theorem LoopReads.string_merge {tag : Nat} {v : String} (get : M → String) {set : M → String → M} {m : M}
    (hf : ∀ s, field (tag % 2 ^ 32) s = set s <$> Act.string) (hd : set m (get m) = m) :
    LoopReads field (stringField tag v) m (set m (if v = "" then get m else v)) := by
  rw [← ite_bne_eq]
  exact LoopReads.scalar_merge get hf
    (fun hp => reads_string (Nat.lt_of_le_of_lt (utf8_length_le_string v) hp)) hd

theorem LoopReads.int32_merge {tag : Nat} {v : Int32} (get : M → Int32) {set : M → Int32 → M} {m : M}
    (hf : ∀ s, field (tag % 2 ^ 32) s = set s <$> Act.int32) (hd : set m (get m) = m) :
    LoopReads field (int32Field tag v) m (set m (if v = 0 then get m else v)) := by
  rw [← ite_bne_eq]
  exact LoopReads.scalar_merge get hf (fun _ => reads_int32 v) hd

theorem LoopReads.uint32_merge {tag : Nat} {v : Uint32} (get : M → Uint32) {set : M → Uint32 → M} {m : M}
    (hf : ∀ s, field (tag % 2 ^ 32) s = set s <$> Act.uint32) (hd : set m (get m) = m) :
    LoopReads field (uint32Field tag v) m (set m (if v = 0 then get m else v)) := by
  rw [← ite_bne_eq]
  exact LoopReads.scalar_merge get hf (fun _ => reads_uint32 v) hd

theorem LoopReads.long_merge {tag : Nat} {v : Long} (get : M → Long) {set : M → Long → M} {m : M}
    (hf : ∀ s, field (tag % 2 ^ 32) s = set s <$> Act.int64) (hd : set m (get m) = m) :
    LoopReads field (longField tag v) m (set m (if v = 0 then get m else v)) := by
  rw [← ite_bne_eq]
  exact LoopReads.scalar_merge get hf (fun _ => reads_int64 v) hd

/-- A `bool` field is written only when it is `true`. -/
theorem LoopReads.bool_merge {tag : Nat} {v : Bool} (get : M → Bool) {set : M → Bool → M} {m : M}
    (hf : ∀ s, field (tag % 2 ^ 32) s = set s <$> Act.bool) (hd : set m (get m) = m) :
    LoopReads field (boolField tag v) m (set m (v || get m)) := by
  have h : LoopReads field (boolField tag v) m _ := LoopReads.scalar_merge get hf (fun _ => reads_bool v) hd
  cases v <;> exact h

/-- A sub-message replaces the one the state holds. -/
theorem LoopReads.optional_merge {N : Type} {field' : Nat → N → Act N} {base : N} {encode : N → Bytes}
    {tag : Nat} {o : Option N} {m : M} (get : M → Option N) (set : M → Option N → M)
    (hf : ∀ s, field (tag % 2 ^ 32) s = (fun v => set s (some v)) <$> Act.nested field' base)
    (hd : set m (get m) = m) (hv : ∀ v ∈ o, LoopReads field' (encode v) base v) :
    LoopReads field (messageField tag encode o) m (set m (o.or (get m))) :=
  LoopReads.optional (fun s o => set s (o.or (get m))) hf hd hv

/-- The elements of a repeated field are pushed after those the state holds. -/
theorem LoopReads.repeated_merge {N : Type} {field' : Nat → N → Act N} {base : N} {encode : N → Bytes}
    {tag : Nat} {vs : List N} {m : M} (get : M → List N) (set : M → List N → M)
    (hf : ∀ s xs, field (tag % 2 ^ 32) (set s xs) = (fun v => set s (xs ++ [v])) <$> Act.nested field' base)
    (hd : set m (get m) = m) (hv : ∀ v ∈ vs, LoopReads field' (encode v) base v) :
    LoopReads field (repeatedField tag encode vs) m (set m (get m ++ vs)) := by
  have h := LoopReads.repeated_from (m := m) set hf hv (get m)
  rwa [hd] at h

end Loop

end Chronik
