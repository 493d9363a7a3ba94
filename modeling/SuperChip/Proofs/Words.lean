import SuperChip.Proofs.OpcodeTable
import SuperChip.Proofs.Operands

/-!
# The words of the instructions

Decoding takes a word apart digit by digit, and the digits of a word are found again in
the instruction that it asks for.  So an instruction has one word (`Instruction.word`),
and decoding is reading that word (`decode_eq_some_iff`).  Whoever wants to know something
of the opcodes of an instruction reads it off its word and does not walk through the
decoders again.
-/

namespace SuperChip

/-! ## The digits of a word -/

namespace Opcode

variable {op : Opcode}

/-- A word written as a family, a register and an operand of two digits. -/
theorem parts_of_toNat (family : Nat) {x : Fin 16} {code : Nat}
    (h : op.toNat = family * 0x1000 + x.val * 256 + code) (hcode : code < 256) :
    op.family.val = family ∧ op.x = x ∧ op.kk.toNat = code := by
  have hkk := op.toNat_kk
  rw [toNat] at h
  refine ⟨?_, ?_, ?_⟩
  · omega
  · apply Fin.ext
    omega
  · omega

/-- A word written as a family and three digits. -/
theorem digits_of_toNat (family : Nat) {x y n : Fin 16}
    (h : op.toNat = family * 0x1000 + x.val * 256 + y.val * 16 + n.val) :
    op.family.val = family ∧ op.x = x ∧ op.y = y ∧ op.n = n := by
  rw [toNat] at h
  refine ⟨?_, ?_, ?_, ?_⟩
  · omega
  all_goals
    apply Fin.ext
    omega

/-- A word written as a family and an operand of three digits. -/
theorem target_of_toNat (family : Nat) {target : Nat}
    (h : op.toNat = family * 0x1000 + target) (htarget : target < 4096) :
    op.family.val = family ∧ op.nnn = target := by
  rw [toNat] at h
  rw [nnn]
  omega

end Opcode

namespace Instruction

/-! ## Writing an instruction -/

/-- The word that asks for an instruction. -/
def word : Instruction → Nat
  | scrollDown rows => 0x00C0 + rows.val
  | clear => 0x00E0
  | ret => 0x00EE
  | scrollRight => 0x00FB
  | scrollLeft => 0x00FC
  | exit => 0x00FD
  | switchResolution .low => 0x00FE
  | switchResolution .high => 0x00FF
  | jump target => 0x1000 + target
  | call target => 0x2000 + target
  | skipImmediate true x kk => 0x3000 + x.val * 256 + kk.toNat
  | skipImmediate false x kk => 0x4000 + x.val * 256 + kk.toNat
  | skipRegister true x y n => 0x5000 + x.val * 256 + y.val * 16 + n.val
  | loadImmediate x kk => 0x6000 + x.val * 256 + kk.toNat
  | addImmediate x kk => 0x7000 + x.val * 256 + kk.toNat
  | combine operation x y => 0x8000 + x.val * 256 + y.val * 16 + operation.digit.val
  | skipRegister false x y n => 0x9000 + x.val * 256 + y.val * 16 + n.val
  | loadIndex target => 0xA000 + target
  | jumpOffset target => 0xB000 + target
  | random x kk => 0xC000 + x.val * 256 + kk.toNat
  | draw x y n => 0xD000 + x.val * 256 + y.val * 16 + n.val
  | skipKey true x => 0xE000 + x.val * 256 + 0x9E
  | skipKey false x => 0xE000 + x.val * 256 + 0xA1
  | readDelay x => 0xF000 + x.val * 256 + 0x07
  | awaitKey x => 0xF000 + x.val * 256 + 0x0A
  | setDelay x => 0xF000 + x.val * 256 + 0x15
  | setSound x => 0xF000 + x.val * 256 + 0x18
  | addIndex x => 0xF000 + x.val * 256 + 0x1E
  | smallGlyph x => 0xF000 + x.val * 256 + 0x29
  | bigGlyph x => 0xF000 + x.val * 256 + 0x30
  | decimal x => 0xF000 + x.val * 256 + 0x33
  | store x => 0xF000 + x.val * 256 + 0x55
  | load x => 0xF000 + x.val * 256 + 0x65
  | saveFlags x => 0xF000 + x.val * 256 + 0x75
  | loadFlags x => 0xF000 + x.val * 256 + 0x85

/-- An instruction whose target is an operand of three digits, if it has a target. -/
def Writable : Instruction → Prop
  | jump target | call target | loadIndex target | jumpOffset target => target < 4096
  | _ => True

variable {op : Opcode} {instruction : Instruction}

/-! ## Reading it -/

theorem written_of_decodeDisplay (hfamily : op.family.val = 0x0)
    (h : decodeDisplay op = some instruction) :
    op.toNat = instruction.word ∧ instruction.Writable := by
  unfold decodeDisplay at h
  split at h
  case h_9 => cases h
  all_goals
    cases h
    refine ⟨?_, trivial⟩
    simp only [Opcode.toNat, word]
    omega

theorem written_of_decodeKey (hfamily : op.family.val = 0xE)
    (h : decodeKey op = some instruction) :
    op.toNat = instruction.word ∧ instruction.Writable := by
  unfold decodeKey at h
  split at h
  case h_3 => cases h
  all_goals
    cases h
    refine ⟨?_, trivial⟩
    simp only [Opcode.toNat, word]
    omega

theorem written_of_decodeTransfer (hfamily : op.family.val = 0xF)
    (h : decodeTransfer op = some instruction) :
    op.toNat = instruction.word ∧ instruction.Writable := by
  unfold decodeTransfer at h
  split at h
  case h_13 => cases h
  all_goals
    cases h
    refine ⟨?_, trivial⟩
    simp only [Opcode.toNat, word]
    omega

theorem written_of_decode (h : decode op = some instruction) :
    op.toNat = instruction.word ∧ instruction.Writable := by
  have hkk := op.toNat_kk
  have hnnn := op.nnn_lt
  unfold decode at h
  split at h
  case h_1 hfamily => exact written_of_decodeDisplay hfamily h
  case h_9 hfamily =>
    obtain ⟨operation, hdigit, rfl⟩ := Option.map_eq_some_iff.mp h
    rw [decodeArithmetic_eq_some_iff] at hdigit
    refine ⟨?_, trivial⟩
    simp only [Opcode.toNat, word, hfamily, hdigit]
  case h_15 hfamily => exact written_of_decodeKey hfamily h
  case h_16 =>
    have hlt := op.family.isLt
    have hfamily : op.family.val = 0xF := by grind
    exact written_of_decodeTransfer hfamily h
  -- the families without tables put the operands together again
  all_goals
    cases h
    refine ⟨?_, by first | exact hnnn | trivial⟩
    simp only [Opcode.toNat, Opcode.nnn, word, hkk]
    omega

theorem eq_of_toNat_eq_scrollDown {rows : Fin 16} (h : op.toNat = (scrollDown rows).word) :
    op = ⟨0x0, 0x0, 0xC, rows⟩ := by
  apply Opcode.eq_of_toNat_eq
  calc op.toNat = 0x00C0 + rows.val := h
    _ = 0x0 * 4096 + 0x0 * 256 + 0xC * 16 + rows.val := by omega

theorem decode_of_written (h : op.toNat = instruction.word) (hwritable : instruction.Writable) :
    decode op = some instruction := by
  -- the word of an instruction determines the digits that decoding looks at
  cases instruction with
  | clear =>
      obtain rfl : op = ⟨0x0, 0x0, 0xE, 0x0⟩ := Opcode.eq_of_toNat_eq h
      rfl
  | ret =>
      obtain rfl : op = ⟨0x0, 0x0, 0xE, 0xE⟩ := Opcode.eq_of_toNat_eq h
      rfl
  | scrollDown rows =>
      obtain rfl := eq_of_toNat_eq_scrollDown h
      rfl
  | scrollRight =>
      obtain rfl : op = ⟨0x0, 0x0, 0xF, 0xB⟩ := Opcode.eq_of_toNat_eq h
      rfl
  | scrollLeft =>
      obtain rfl : op = ⟨0x0, 0x0, 0xF, 0xC⟩ := Opcode.eq_of_toNat_eq h
      rfl
  | exit =>
      obtain rfl : op = ⟨0x0, 0x0, 0xF, 0xD⟩ := Opcode.eq_of_toNat_eq h
      rfl
  | switchResolution resolution =>
      cases resolution with
      | low =>
          obtain rfl : op = ⟨0x0, 0x0, 0xF, 0xE⟩ := Opcode.eq_of_toNat_eq h
          rfl
      | high =>
          obtain rfl : op = ⟨0x0, 0x0, 0xF, 0xF⟩ := Opcode.eq_of_toNat_eq h
          rfl
  | jump target =>
      obtain ⟨hfamily, hnnn⟩ := Opcode.target_of_toNat 0x1 h hwritable
      simp [decode, hfamily, hnnn]
  | call target =>
      obtain ⟨hfamily, hnnn⟩ := Opcode.target_of_toNat 0x2 h hwritable
      simp [decode, hfamily, hnnn]
  | loadIndex target =>
      obtain ⟨hfamily, hnnn⟩ := Opcode.target_of_toNat 0xA h hwritable
      simp [decode, hfamily, hnnn]
  | jumpOffset target =>
      obtain ⟨hfamily, hnnn⟩ := Opcode.target_of_toNat 0xB h hwritable
      simp [decode, hfamily, hnnn]
  | skipImmediate whenEqual x kk =>
      cases whenEqual with
      | true =>
          obtain ⟨hfamily, hx, hkk⟩ := Opcode.parts_of_toNat 0x3 h kk.toNat_lt
          simp [decode, hfamily, hx, UInt8.toNat_inj.mp hkk]
      | false =>
          obtain ⟨hfamily, hx, hkk⟩ := Opcode.parts_of_toNat 0x4 h kk.toNat_lt
          simp [decode, hfamily, hx, UInt8.toNat_inj.mp hkk]
  | skipRegister whenEqual x y n =>
      cases whenEqual with
      | true =>
          obtain ⟨hfamily, hx, hy, hn⟩ := Opcode.digits_of_toNat 0x5 h
          simp [decode, hfamily, hx, hy, hn]
      | false =>
          obtain ⟨hfamily, hx, hy, hn⟩ := Opcode.digits_of_toNat 0x9 h
          simp [decode, hfamily, hx, hy, hn]
  | loadImmediate x kk =>
      obtain ⟨hfamily, hx, hkk⟩ := Opcode.parts_of_toNat 0x6 h kk.toNat_lt
      simp [decode, hfamily, hx, UInt8.toNat_inj.mp hkk]
  | addImmediate x kk =>
      obtain ⟨hfamily, hx, hkk⟩ := Opcode.parts_of_toNat 0x7 h kk.toNat_lt
      simp [decode, hfamily, hx, UInt8.toNat_inj.mp hkk]
  | random x kk =>
      obtain ⟨hfamily, hx, hkk⟩ := Opcode.parts_of_toNat 0xC h kk.toNat_lt
      simp [decode, hfamily, hx, UInt8.toNat_inj.mp hkk]
  | combine operation x y =>
      obtain ⟨hfamily, hx, hy, hn⟩ := Opcode.digits_of_toNat 0x8 h
      simp [decode, hfamily, hx, hy, decodeArithmetic_eq_some_iff.mpr hn]
  | draw x y n =>
      obtain ⟨hfamily, hx, hy, hn⟩ := Opcode.digits_of_toNat 0xD h
      simp [decode, hfamily, hx, hy, hn]
  | skipKey whenPressed x =>
      cases whenPressed with
      | true =>
          obtain ⟨hfamily, hx, hkk⟩ := Opcode.parts_of_toNat 0xE h (by decide)
          obtain ⟨hy, hn⟩ := Opcode.digits_of_kk hkk
          simp [decode, decodeKey, hfamily, hx, hy, hn]
      | false =>
          obtain ⟨hfamily, hx, hkk⟩ := Opcode.parts_of_toNat 0xE h (by decide)
          obtain ⟨hy, hn⟩ := Opcode.digits_of_kk hkk
          simp [decode, decodeKey, hfamily, hx, hy, hn]
  | readDelay x | awaitKey x | setDelay x | setSound x | addIndex x | smallGlyph x | bigGlyph x
  | decimal x | store x | load x | saveFlags x | loadFlags x =>
      obtain ⟨hfamily, hx, hkk⟩ := Opcode.parts_of_toNat 0xF h (by decide)
      obtain ⟨hy, hn⟩ := Opcode.digits_of_kk hkk
      simp [decode, decodeTransfer, hfamily, hx, hy, hn]

/-- An opcode asks for an instruction if it is the word of it. -/
theorem decode_eq_some_iff :
    decode op = some instruction ↔ op.toNat = instruction.word ∧ instruction.Writable :=
  ⟨written_of_decode, fun h => decode_of_written h.1 h.2⟩

end Instruction

end SuperChip
