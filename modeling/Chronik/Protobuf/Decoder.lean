import Chronik.Protobuf.Reader

/-! # Decode loops

Every `decode` of `chronik.ts` has one shape:

```
const reader = input instanceof _m0.Reader ? input : new _m0.Reader(input)
let end = length === undefined ? reader.len : reader.pos + length
const message = { ...baseM } as M
while (reader.pos < end) {
  const tag = reader.uint32()
  switch (tag >>> 3) { case k: message.f = reader.read(); break; ...
    default: reader.skipType(tag & 7) }
}
return message
```

`Act` is a read from the current position that never moves the reader back; the `switch` of a
message is a function `field : Nat → M → Act M` of the tag, and `loop` is the `while`. Since the
tag read moves forward, the loop terminates: its measure is `end - pos`. -/

namespace Chronik

/-- A read at the reader's position: the value and the new position, or what the reader throws.
It never moves the reader back. -/
structure Act (α : Type) where
  run : Bytes → Nat → Except DecodeError (α × Nat)
  mono : ∀ {buf : Bytes} {pos : Nat} {a : α} {q : Nat}, run buf pos = .ok (a, q) → pos ≤ q

namespace Act

/-- The value `a`, without reading. -/
protected def pure {α : Type} (a : α) : Act α :=
  ⟨fun _ pos => .ok (a, pos), fun h => by cases h; exact Nat.le_refl _⟩

/-- Runs `x`, then `f` of its value from where `x` stopped. -/
protected def bind {α β : Type} (x : Act α) (f : α → Act β) : Act β where
  run buf pos := match x.run buf pos with
    | .ok (a, q) => (f a).run buf q
    | .error e => .error e
  mono {buf pos b r} h := by
    dsimp only at h
    split at h
    · exact Nat.le_trans (x.mono ‹_›) ((f _).mono h)
    · cases h

instance : Monad Act where
  pure := Act.pure
  bind := Act.bind

@[simp] theorem run_pure {α : Type} (a : α) (buf : Bytes) (pos : Nat) :
    (pure a : Act α).run buf pos = .ok (a, pos) := rfl

theorem run_bind {α β : Type} (x : Act α) (f : α → Act β) (buf : Bytes) (pos : Nat) :
    (x >>= f).run buf pos = match x.run buf pos with
      | .ok (a, q) => (f a).run buf q
      | .error e => .error e := rfl

theorem run_map {α β : Type} (f : α → β) (x : Act α) (buf : Bytes) (pos : Nat) :
    (f <$> x).run buf pos = match x.run buf pos with
      | .ok (a, q) => .ok (f a, q)
      | .error e => .error e := by
  show (x >>= fun a => pure (f a)).run buf pos = _
  rw [run_bind]
  split <;> rfl

/-! ### Reads -/

/-- A read whose position never goes back, as an `Act`. -/
def ofRead {α : Type} (read : Bytes → Nat → Except DecodeError (α × Nat))
    (h : ∀ {buf pos a q}, read buf pos = .ok (a, q) → pos ≤ q) : Act α := ⟨read, h⟩

/-- The read `reader.uint32()`. -/
def uint32 : Act Uint32 := ofRead Reader.uint32 fun h => (Reader.uint32_spec h).1.le

/-- The read `reader.int32()`, and an enum field's `reader.int32() as any`. -/
def int32 : Act Int32 :=
  ofRead Reader.int32 fun {buf pos a q} h => by
    unfold Reader.int32 at h
    cases hu : Reader.uint32 buf pos with
    | error e => rw [hu] at h; cases h
    | ok r =>
      rw [hu] at h
      cases h
      exact (Reader.uint32_spec hu).1.le

/-- The read `reader.bool()`. -/
def bool : Act Bool :=
  ofRead Reader.bool fun {buf pos a q} h => by
    unfold Reader.bool at h
    cases hu : Reader.uint32 buf pos with
    | error e => rw [hu] at h; cases h
    | ok r =>
      rw [hu] at h
      cases h
      exact (Reader.uint32_spec hu).1.le

theorem scanChecked_le {buf : Bytes} : ∀ {n i acc pos v q b},
    Reader.scanChecked buf n i acc pos = .ok (v, q, b) → pos ≤ q
  | 0, _, _, _, _, _, _, h => by cases h; exact Nat.le_refl _
  | n + 1, i, acc, pos, v, q, b, h => by
    unfold Reader.scanChecked at h
    split at h
    · cases h
    · split at h
      · have := scanChecked_le h
        omega
      · cases h
        omega

theorem readLongVarint_le {buf : Bytes} {pos : Nat} {v : Long} {q : Nat}
    (h : Reader.readLongVarint buf pos = .ok (v, q)) : pos ≤ q := by
  unfold Reader.readLongVarint at h
  split at h
  · split at h
    · cases h
      exact Reader.scan_le ‹_›
    · rename_i hs
      have h1 := Reader.scan_le hs
      split at h
      · rename_i hh
        cases h
        split at hh
        · have := Reader.scan_le (Except.ok.inj hh)
          omega
        · have := scanChecked_le hh
          omega
      · cases h
      · cases h
  · split at h
    · cases h
      exact scanChecked_le ‹_›
    · cases h
      have := scanChecked_le ‹_›
      omega
    · cases h

/-- The reads `reader.int64()` and `reader.uint64()`: `readLongVarint`. -/
def int64 : Act Long := ofRead Reader.readLongVarint readLongVarint_le

theorem bytes_le {buf : Bytes} {pos : Nat} {v : Bytes} {q : Nat} (h : Reader.bytes buf pos = .ok (v, q)) :
    pos ≤ q := by
  unfold Reader.bytes at h
  split at h
  · cases h
  · rename_i hu
    have := (Reader.uint32_spec hu).1
    split at h
    · cases h
    · cases h
      omega

/-- The read `reader.bytes()`. -/
def bytes : Act Bytes := ofRead Reader.bytes bytes_le

/-- The read `reader.string()`. -/
def string : Act String :=
  ofRead Reader.string fun {buf pos a q} h => by
    unfold Reader.string at h
    cases hb : Reader.bytes buf pos with
    | error e => rw [hb] at h; cases h
    | ok r =>
      rw [hb] at h
      cases h
      exact bytes_le hb

/-- The skip `reader.skipType(wireType)`. -/
def skipType (wireType : Nat) : Act Unit :=
  ofRead (fun buf pos => (Reader.skipType buf wireType pos).map fun q => ((), q.val))
    fun {buf pos a q} h => by
      dsimp only at h
      cases hs : Reader.skipType buf wireType pos with
      | error e => rw [hs] at h; cases h
      | ok r =>
        rw [hs] at h
        cases h
        exact r.2.1.le

/-! ### The loop -/

section Loop
variable {M : Type} (field : Nat → M → Act M) (stop : Nat) (buf : Bytes)

/-- One iteration of the `while`: `const tag = reader.uint32()`, then the `switch` on the tag. -/
def step (m : M) (pos : Nat) : Except DecodeError (M × Nat) :=
  match Reader.uint32 buf pos with
  | .error e => .error e
  | .ok (tag, p) => (field tag.val m).run buf p

variable {field buf}

/-- An iteration that returns has moved the reader forward. -/
theorem step_lt {m m' : M} {pos q : Nat} (h : step field buf m pos = .ok (m', q)) : pos < q := by
  unfold step at h
  split at h
  · cases h
  · rename_i hu
    exact Nat.lt_of_lt_of_le (Reader.uint32_spec hu).1 ((field _ m).mono h)

variable (field buf)

/-- The `while (reader.pos < end)` loop, by recursion on a bound of its iterations: each one
moves the reader forward (`step_lt`), so `stop - pos` iterations are enough and `fuel = 0` is never
reached. -/
def loopAux : (fuel : Nat) → (m : M) → (pos : Nat) → stop - pos < fuel → Except DecodeError (M × Nat)
  | 0, _, _, h => absurd h (Nat.not_lt_zero _)
  | fuel + 1, m, pos, h =>
    if hp : pos < stop then
      match hs : step field buf m pos with
      | .error e => .error e
      | .ok (m', q) => loopAux fuel m' q (by have := step_lt hs; omega)
    else .ok (m, pos)

/-- The decode loop of a message from `pos` up to `stop`. -/
def loop (m : M) (pos : Nat) : Except DecodeError (M × Nat) :=
  loopAux field stop buf (stop - pos + 1) m pos (Nat.lt_succ_self _)

variable {field stop buf}

theorem loopAux_fuel : ∀ (f₁ f₂ : Nat) (m : M) (pos : Nat) (h₁ : stop - pos < f₁) (h₂ : stop - pos < f₂),
    loopAux field stop buf f₁ m pos h₁ = loopAux field stop buf f₂ m pos h₂
  | 0, _, _, _, h₁, _ => absurd h₁ (Nat.not_lt_zero _)
  | _, 0, _, _, _, h₂ => absurd h₂ (Nat.not_lt_zero _)
  | f₁ + 1, f₂ + 1, m, pos, h₁, h₂ => by
    simp only [loopAux]
    split
    · split
      · rfl
      · exact loopAux_fuel f₁ f₂ _ _ _ _
    · rfl

/-- The loop's unfolding: while `pos < stop`, one iteration and the rest of the loop. -/
theorem loop_eq (m : M) (pos : Nat) : loop field stop buf m pos =
    if pos < stop then
      match step field buf m pos with
      | .error e => .error e
      | .ok (m', q) => loop field stop buf m' q
    else .ok (m, pos) := by
  conv_lhs => unfold loop; simp only [loopAux]
  split
  · split
    · rename_i hs
      rw [hs]
    · rename_i hs
      conv_rhs => rw [hs]
      exact loopAux_fuel _ _ _ _ _ _
  · rfl

theorem loop_of_not_lt {m : M} {pos : Nat} (h : ¬pos < stop) : loop field stop buf m pos = .ok (m, pos) := by
  rw [loop_eq, if_neg h]

theorem loop_step {m m' : M} {pos q : Nat} (hp : pos < stop) (hs : step field buf m pos = .ok (m', q)) :
    loop field stop buf m pos = loop field stop buf m' q := by
  rw [loop_eq, if_pos hp, hs]

theorem loop_error {m : M} {pos : Nat} {e : DecodeError} (hp : pos < stop) (hs : step field buf m pos = .error e) :
    loop field stop buf m pos = .error e := by
  rw [loop_eq, if_pos hp, hs]

/-- Induction along the loop: a property of the loop's result that holds where the loop stops
and is carried back over each iteration. -/
theorem loop_induction (P : M → Nat → Prop)
    (stopped : ∀ m pos, ¬pos < stop → P m pos)
    (failed : ∀ m pos e, pos < stop → step field buf m pos = .error e → P m pos)
    (iter : ∀ m pos m' q, pos < stop → step field buf m pos = .ok (m', q) → P m' q → P m pos) :
    ∀ m pos, P m pos := by
  intro m pos
  obtain ⟨n, h⟩ : ∃ n, stop - pos = n := ⟨_, rfl⟩
  induction n using Nat.strong_induction_on generalizing m pos with
  | _ n ih =>
    by_cases hp : pos < stop
    · cases hs : step field buf m pos with
      | error e => exact failed m pos e hp hs
      | ok r => exact iter m pos r.1 r.2 hp hs (ih (stop - r.2) (by have := step_lt hs; omega) _ _ rfl)
    · exact stopped m pos hp

theorem loop_le {m m' : M} {pos q : Nat} (h : loop field stop buf m pos = .ok (m', q)) : pos ≤ q := by
  revert h
  refine @loop_induction M field stop buf (fun m pos => loop field stop buf m pos = .ok (m', q) → pos ≤ q) ?_ ?_ ?_ m pos
  · intro m pos hp h
    rw [loop_of_not_lt hp] at h
    cases h
    exact Nat.le_refl _
  · intro m pos e hp hs h
    rw [loop_error hp hs] at h
    cases h
  · intro m pos m₁ p hp hs ih h
    rw [loop_step hp hs] at h
    exact Nat.le_trans (step_lt hs).le (ih h)

/-- The loop from `(m, pos)` reaches the outcome `r` in `n` iterations: it stops where
`pos < stop` fails, stops at the first iteration that throws, and otherwise runs on from where an
iteration leaves the reader. -/
inductive Runs (field : Nat → M → Act M) (stop : Nat) (buf : Bytes) :
    Nat → M → Nat → Except DecodeError (M × Nat) → Prop
  | stopped {m pos} : ¬pos < stop → Runs field stop buf 0 m pos (.ok (m, pos))
  | failed {m pos e} : pos < stop → step field buf m pos = .error e → Runs field stop buf 1 m pos (.error e)
  | next {n m pos m' q r} : pos < stop → step field buf m pos = .ok (m', q) →
      Runs field stop buf n m' q r → Runs field stop buf (n + 1) m pos r

/-- The loop's outcome is reached in at most `stop - pos` iterations. -/
theorem loop_runs (m : M) (pos : Nat) :
    ∃ n, n ≤ stop - pos ∧ Runs field stop buf n m pos (loop field stop buf m pos) := by
  refine @loop_induction M field stop buf
    (fun m pos => ∃ n, n ≤ stop - pos ∧ Runs field stop buf n m pos (loop field stop buf m pos)) ?_ ?_ ?_ m pos
  · intro m pos hp
    rw [loop_of_not_lt hp]
    exact ⟨0, Nat.zero_le _, .stopped hp⟩
  · intro m pos e hp hs
    rw [loop_error hp hs]
    exact ⟨1, by omega, .failed hp hs⟩
  · rintro m pos m' q hp hs ⟨n, hn, hr⟩
    have := step_lt hs
    rw [loop_step hp hs]
    exact ⟨n + 1, by omega, .next hp hs hr⟩

end Loop

/-- The call `M.decode(reader, length)` of a nested message: the loop from `baseM` up to `pos + length`. -/
def message {M : Type} (field : Nat → M → Act M) (base : M) (length : Nat) : Act M :=
  ⟨fun buf pos => loop field (pos + length) buf base pos, loop_le⟩

/-- The call `M.decode(reader, reader.uint32())` of a sub-message field: the length, then the
nested loop up to the end it announces. -/
def nested {M : Type} (field : Nat → M → Act M) (base : M) : Act M :=
  uint32 >>= fun length => message field base length.val

/-- The call `M.decode(bytes)`: a new reader over `bytes`, the loop up to `reader.len`. -/
def decode {M : Type} (field : Nat → M → Act M) (base : M) (bytes : Bytes) : Except DecodeError M :=
  (loop field bytes.length bytes base 0).map Prod.fst

end Act
end Chronik
