import SuperChip.Proofs.Execution

/-!
# The operands of two registers

The operations of two registers write the flag before the result, and either of
their operands may be the flag register.  What counts is that the operands are
read before the flag is written: then the result is that of the values which the
registers held before, the flag is theirs too, and where the flag register is the
first operand it keeps the result.

The two shifts read their operand again.  Nobody can tell unless it is the flag
register, for nothing else has been written; but a shift of the flag register
shifts the bit that has just fallen out of it.

## Strategy

`wholeResult` and `setsFlag?` say with whole numbers what the operations compute.
`combine` works with bytes, and for the bytes of two registers it comes to the same
(`toNat_result`, `flag?_eq`).  What is left is to follow the two writes
(`get_combine`).
-/

namespace SuperChip

namespace Arithmetic

/-- The last digit of the opcodes that ask for an operation. -/
def digit : Arithmetic → Fin 16
  | copy => 0x0
  | or => 0x1
  | and => 0x2
  | xor => 0x3
  | add => 0x4
  | subtract => 0x5
  | shiftRight => 0x6
  | subtractFrom => 0x7
  | shiftLeft => 0xE

/-- The result of an operation on two numbers below 256. -/
def wholeResult : Arithmetic → Nat → Nat → Nat
  | copy, _, b => b
  | or, a, b => a ||| b
  | and, a, b => a &&& b
  | xor, a, b => a ^^^ b
  | add, a, b => (a + b) % 256
  | subtract, a, b => (((a : Int) - b) % 256).toNat
  | shiftRight, a, _ => a / 2
  | subtractFrom, a, b => (((b : Int) - a) % 256).toNat
  | shiftLeft, a, _ => 2 * a % 256

/-- Whether an operation that has a flag sets it: if there is a carry, if there is no
borrow and the operands are not equal, or if the bit shifted out is set. -/
def setsFlag? : Arithmetic → Nat → Nat → Option Bool
  | add, a, b => some (decide (255 < a + b))
  | subtract, a, b => some (decide (b < a))
  | shiftRight, a, _ => some (decide (a % 2 = 1))
  | subtractFrom, a, b => some (decide (a < b))
  | shiftLeft, a, _ => some (decide (128 ≤ a))
  | _, _, _ => none

theorem toNat_result (operation : Arithmetic) (a b : UInt8) :
    (operation.result a b).toNat = operation.wholeResult a.toNat b.toNat := by
  have ha := a.toNat_lt
  have hb := b.toNat_lt
  cases operation with
  | copy => rfl
  | or => exact UInt8.toNat_or a b
  | and => exact UInt8.toNat_and a b
  | xor => exact UInt8.toNat_xor a b
  | add => exact UInt8.toNat_add a b
  | subtract =>
      simp only [result, wholeResult, UInt8.toNat_sub]
      omega
  | shiftRight =>
      simp only [result, wholeResult, UInt8.toNat_shiftRight]
      exact Nat.shiftRight_eq_div_pow a.toNat 1
  | subtractFrom =>
      simp only [result, wholeResult, UInt8.toNat_sub]
      omega
  | shiftLeft =>
      have hdouble : a.toNat <<< 1 = 2 * a.toNat := by rw [Nat.shiftLeft_eq, Nat.mul_comm]
      calc (a <<< 1).toNat
          = a.toNat <<< 1 % 256 := UInt8.toNat_shiftLeft a 1
        _ = 2 * a.toNat % 256 := by rw [hdouble]

theorem flag?_eq (operation : Arithmetic) (a b : UInt8) :
    operation.flag? a b =
      (operation.setsFlag? a.toNat b.toNat).map fun set => if set then 1 else 0 := by
  have ha := a.toNat_lt
  cases operation with
  | add => simp [flag?, setsFlag?]
  | subtract => simp [flag?, setsFlag?, UInt8.lt_iff_toNat_lt]
  | shiftRight =>
      -- the lowest bit is the parity
      have hbit : (a &&& 1).toNat = a.toNat % 2 :=
        (UInt8.toNat_and a 1).trans (Nat.and_one_is_mod a.toNat)
      rcases Nat.mod_two_eq_zero_or_one a.toNat with heven | hodd
      · simp [flag?, setsFlag?, ← UInt8.toNat_inj, hbit, heven]
      · simp [flag?, setsFlag?, ← UInt8.toNat_inj, hbit, hodd]
  | subtractFrom => simp [flag?, setsFlag?, UInt8.lt_iff_toNat_lt]
  | shiftLeft =>
      have hbit : (a >>> 7).toNat = a.toNat / 128 :=
        (UInt8.toNat_shiftRight a 7).trans (Nat.shiftRight_eq_div_pow a.toNat 7)
      by_cases hhigh : 128 ≤ a.toNat
      · have hone : a.toNat / 128 = 1 := by omega
        simp [flag?, setsFlag?, ← UInt8.toNat_inj, hbit, hhigh, hone]
      · have hzero : a.toNat / 128 = 0 := by omega
        simp [flag?, setsFlag?, ← UInt8.toNat_inj, hbit, hhigh, hzero]
  | _ => rfl

end Arithmetic

theorem Instruction.decodeArithmetic_eq_some_iff {n : Fin 16} {operation : Arithmetic} :
    decodeArithmetic n = some operation ↔ n = operation.digit := by
  revert n
  cases operation <;> decide

namespace Machine

/-! ## Following the two writes -/

/-- What an operation on two registers makes of the registers. -/
structure Combined (operation : Arithmetic) (x y : Fin 16) (before after : Vector UInt8 16) :
    Prop where
  result : ¬ (x = flagRegister ∧ operation.isShift = true) →
    (after.get x).toNat =
      operation.wholeResult (before.get x).toNat (before.get y).toNat
  flag : x ≠ flagRegister → ∀ set,
    operation.setsFlag? (before.get x).toNat (before.get y).toNat = some set →
      after.get flagRegister = if set = true then 1 else 0
  others : ∀ register, register ≠ x →
    (register = flagRegister →
      operation.setsFlag? (before.get x).toNat (before.get y).toNat = none) →
      after.get register = before.get register
  /-- The bit that a shift takes out of the flag register is written there, and then it
  is shifted itself. -/
  shiftedFlag : x = flagRegister → operation.isShift = true → ∀ set,
    operation.setsFlag? (before.get x).toNat (before.get y).toNat = some set →
      (after.get x).toNat = operation.wholeResult (if set = true then 1 else 0) (before.get y).toNat

variable (m : Machine)

theorem get_writeFlag (operation : Arithmetic) (x y register : Fin 16) :
    (m.writeFlag operation x y).v.get register =
      if register = flagRegister then
        (operation.flag? (m.v.get x) (m.v.get y)).getD (m.v.get register)
      else m.v.get register := by
  unfold writeFlag
  cases operation.flag? (m.v.get x) (m.v.get y) with
  | none => simp
  | some flag => simp [setRegister, eq_comm]

/-- The operand that is combined with the second one: a shift reads it behind the flag. -/
def firstOperand (operation : Arithmetic) (x y : Fin 16) : UInt8 :=
  if operation.isShift then (m.writeFlag operation x y).v.get x else m.v.get x

theorem get_combine (operation : Arithmetic) (x y register : Fin 16) :
    (m.combine operation x y).v.get register =
      if x = register then operation.result (m.firstOperand operation x y) (m.v.get y)
      else (m.writeFlag operation x y).v.get register :=
  Slots.get_put _ x register _

theorem firstOperand_eq {operation : Arithmetic} {x : Fin 16}
    (h : ¬ (x = flagRegister ∧ operation.isShift = true)) (y : Fin 16) :
    m.firstOperand operation x y = m.v.get x := by
  unfold firstOperand
  split
  · rename_i hshift
    have hx : x ≠ flagRegister := fun hflag => h ⟨hflag, hshift⟩
    rw [get_writeFlag, if_neg hx]
  · rfl

theorem firstOperand_of_shift {operation : Arithmetic} (hshift : operation.isShift = true)
    {y : Fin 16} {set : Bool}
    (hset : operation.setsFlag? (m.v.get flagRegister).toNat (m.v.get y).toNat = some set) :
    (m.firstOperand operation flagRegister y).toNat = if set = true then 1 else 0 := by
  rw [firstOperand, if_pos hshift, get_writeFlag, if_pos rfl, Arithmetic.flag?_eq, hset]
  cases set <;> rfl

theorem combined (operation : Arithmetic) (x y : Fin 16) :
    Combined operation x y m.v (m.combine operation x y).v where
  result h := by
    rw [get_combine, if_pos rfl, m.firstOperand_eq h y, Arithmetic.toNat_result]
  flag hx set hset := by
    rw [get_combine, if_neg hx, get_writeFlag, if_pos rfl, Arithmetic.flag?_eq, hset]
    rfl
  -- of the two writes neither reaches another register, and without a flag there is only one
  others register hregister hflag := by
    rw [get_combine, if_neg (Ne.symm hregister), get_writeFlag]
    by_cases hsame : register = flagRegister
    · rw [if_pos hsame, Arithmetic.flag?_eq, hflag hsame]
      rfl
    · rw [if_neg hsame]
  shiftedFlag hx hshift set hset := by
    subst hx
    rw [get_combine, if_pos rfl, Arithmetic.toNat_result, m.firstOperand_of_shift hshift hset]

/-! ## The opcodes that combine two registers -/

variable {ρ : Type} [Generator ρ]

theorem decode_of_family_eq_eight {op : Opcode} (hfamily : op.family.val = 8) :
    Instruction.decode op =
      (Instruction.decodeArithmetic op.n).map fun operation => .combine operation op.x op.y := by
  simp [Instruction.decode, hfamily]

/-- **The operands are those that the registers held before.**  An opcode `8xyN` with the
digit of an operation puts the result of the old values of both registers into the first
one, and if the operation has a flag and the first register is not the flag register, the
flag of the old values into the flag register; no other register changes.  Only a shift
of the flag register does otherwise: it shifts the flag of the old value.  With any other
digit the opcode has no meaning and changes nothing. -/
theorem combine_reads_operands (variant : Variant) (random : ρ) {op : Opcode}
    (hfamily : op.family.val = 8) :
    (∀ operation : Arithmetic, op.n = operation.digit →
      ∃ v, (m.perform variant random op).1 = .completed { m with v := v } ∧
        Combined operation op.x op.y m.v v) ∧
    ((∀ operation : Arithmetic, op.n ≠ operation.digit) →
      (m.perform variant random op).1 = .anomalous .unknownOpcode m) := by
  have hdecode := decode_of_family_eq_eight hfamily
  constructor
  · intro operation hdigit
    rw [Instruction.decodeArithmetic_eq_some_iff.mpr hdigit, Option.map_some] at hdecode
    have hdefined : Instruction.decodeIn variant op = some (.combine operation op.x op.y) := by
      rw [Instruction.decodeIn, hdecode]
      cases variant <;> rfl
    obtain ⟨number, hperform⟩ := exists_perform_eq_execute (m := m) variant random hdefined
    obtain ⟨v, hv⟩ := m.exists_combine_eq operation op.x op.y
    have hcombined := m.combined operation op.x op.y
    rw [hv] at hcombined
    refine ⟨v, ?_, hcombined⟩
    rw [hperform, ← hv]
    rfl
  · intro hnone
    have hrefused : Instruction.decodeArithmetic op.n = none := by
      cases hdigit : Instruction.decodeArithmetic op.n with
      | none => rfl
      | some operation =>
          exact absurd (Instruction.decodeArithmetic_eq_some_iff.mp hdigit) (hnone operation)
    rw [hrefused, Option.map_none] at hdecode
    have hundefined : Instruction.decodeIn variant op = none := by
      rw [Instruction.decodeIn, hdecode]
      rfl
    rw [perform_of_undefined variant random hundefined]

/-- The difference of register zero and the flag register takes the place of the flag. -/
theorem combine_reads_operands_into_flag :
    let m : Machine := { Machine.fresh with
      v := Slots.put (Slots.put (Vector.replicate 16 0) flagRegister 1) 0 3 }
    let op : Opcode := ⟨8, 0xF, 0, 7⟩
    op.family.val = 8 ∧ op.n = Arithmetic.subtractFrom.digit ∧
      ∃ v, (m.perform .schip (Cycle.ofList [0]) op).1 = .completed { m with v := v } ∧
        Combined .subtractFrom 0xF 0 m.v v ∧ (v.get flagRegister).toNat = 2 := by
  intro m op
  have hfamily : op.family.val = 8 := rfl
  have hdigit : op.n = Arithmetic.subtractFrom.digit := rfl
  obtain ⟨v, hperform, hcombined⟩ :=
    (combine_reads_operands m .schip (Cycle.ofList [0]) hfamily).1 .subtractFrom hdigit
  refine ⟨hfamily, hdigit, v, hperform, hcombined, ?_⟩
  have hresult := hcombined.result (by decide)
  rw [show op.x = flagRegister from rfl] at hresult
  rw [hresult]
  decide

/-- A shift of the flag register does not shift the value that it held before: half of
four is two, but what is left is half of the bit that fell out. -/
theorem shift_of_flag_loses_operand :
    let m : Machine := { Machine.fresh with
      v := Slots.put (Vector.replicate 16 0) flagRegister 4 }
    let op : Opcode := ⟨8, 0xF, 0, 6⟩
    let after := (m.perform .schip (Cycle.ofList [0]) op).1.machine
    op.family.val = 8 ∧ op.n = Arithmetic.shiftRight.digit ∧
      Arithmetic.shiftRight.wholeResult (m.v.get op.x).toNat (m.v.get op.y).toNat = 2 ∧
      (after.v.get op.x).toNat = 0 := by
  decide +kernel

end Machine

end SuperChip
