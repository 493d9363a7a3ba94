import SuperChip.Proofs.Mnemonics
import SuperChip.Proofs.WellFormed
import SuperChip.Proofs.Words

/-!
# What the disassembler tells about the machine

The disassembler shows one text whatever variant is active.  Where two opcodes
have the same text, the machine treats them alike, with one exception: the
extended set executes a comparison of two registers only if its last digit is
zero, and the text of a comparison does not show its last digit.
-/

namespace SuperChip

namespace Instruction

/-! ## What a mnemonic does not show -/

/-- Whether an instruction compares two registers, which its variant may refuse. -/
def compares : Instruction → Bool
  | skipRegister _ _ _ _ => true
  | _ => false

theorem compares_shown (instruction : Instruction) :
    instruction.shown.compares = instruction.compares := by
  cases instruction <;> rfl

theorem definedIn_shown {instruction : Instruction} (h : instruction.compares = false)
    (variant : Variant) : instruction.shown.definedIn variant = instruction.definedIn variant := by
  cases instruction
  case skipRegister whenEqual x y n => cases h
  all_goals cases variant <;> rfl

theorem drawsRandom_shown (instruction : Instruction) :
    instruction.shown.drawsRandom = instruction.drawsRandom := by
  cases instruction <;> rfl

theorem exists_eq_of_compares {instruction : Instruction} (h : instruction.compares = true) :
    ∃ whenEqual x y n, instruction = skipRegister whenEqual x y n := by
  cases instruction
  case skipRegister whenEqual x y n => exact ⟨whenEqual, x, y, n, rfl⟩
  all_goals cases h

/-- Only two families ask for a comparison, and its last digit is that of the opcode. -/
theorem of_decode_skipRegister {op : Opcode} {whenEqual : Bool} {x y n : Fin 16}
    (h : decode op = some (.skipRegister whenEqual x y n)) :
    (op.family = 5 ∨ op.family = 9) ∧ n = op.n := by
  obtain ⟨hword, -⟩ := decode_eq_some_iff.mp h
  cases whenEqual with
  | true =>
      obtain ⟨hfamily, -, -, hn⟩ := Opcode.digits_of_toNat 0x5 hword
      exact ⟨.inl (Fin.ext hfamily), hn.symm⟩
  | false =>
      obtain ⟨hfamily, -, -, hn⟩ := Opcode.digits_of_toNat 0x9 hword
      exact ⟨.inr (Fin.ext hfamily), hn.symm⟩

/-- Instructions with one text are defined in the same variants, if comparisons agree on
whether their last digit is zero. -/
theorem definedIn_eq_of_shown_eq {first second : Instruction} (h : first.shown = second.shown)
    {variant : Variant}
    (hdigit : ∀ {whenEqual x y n whenEqual' x' y' n'},
      first = skipRegister whenEqual x y n → second = skipRegister whenEqual' x' y' n' →
        variant = .schip → (n = 0 ↔ n' = 0)) :
    first.definedIn variant = second.definedIn variant := by
  have hcompares : first.compares = second.compares := by
    calc first.compares = first.shown.compares := first.compares_shown.symm
      _ = second.shown.compares := by rw [h]
      _ = second.compares := second.compares_shown
  -- only of a comparison the text leaves out what the variant asks for
  by_cases hfirst : first.compares = true
  · obtain ⟨whenEqual, x, y, n, rfl⟩ := exists_eq_of_compares hfirst
    obtain ⟨whenEqual', x', y', n', rfl⟩ := exists_eq_of_compares (hcompares ▸ hfirst)
    cases variant with
    | chip8 => rfl
    | schip =>
        have hzero : n = 0 ↔ n' = 0 := hdigit rfl rfl rfl
        rw [Bool.eq_iff_iff]
        simpa [definedIn] using hzero
  · rw [Bool.not_eq_true] at hfirst
    calc first.definedIn variant = first.shown.definedIn variant :=
          (definedIn_shown hfirst variant).symm
      _ = second.shown.definedIn variant := by rw [h]
      _ = second.definedIn variant := definedIn_shown (hcompares ▸ hfirst) variant

end Instruction

namespace Machine

/-- The machine reads no more of an instruction than its mnemonic shows. -/
theorem execute_shown (variant : Variant) (random : Int) (m : Machine) (instruction : Instruction) :
    m.execute variant random instruction.shown = m.execute variant random instruction := by
  cases instruction
  case combine operation x y => cases operation <;> rfl
  all_goals rfl

variable {ρ : Type} [Generator ρ]

theorem perform_eq_of_shown_eq {variant : Variant} {a b : Opcode} {first second : Instruction}
    (ha : Instruction.decode a = some first) (hb : Instruction.decode b = some second)
    (hshown : first.shown = second.shown)
    (hdefined : first.definedIn variant = second.definedIn variant) (random : ρ) (m : Machine) :
    m.perform variant random a = m.perform variant random b := by
  have hdraws : first.drawsRandom = second.drawsRandom := by
    rw [← first.drawsRandom_shown, hshown, second.drawsRandom_shown]
  have hexecute : ∀ number, m.execute variant number first = m.execute variant number second := by
    intro number
    rw [← execute_shown variant number m first, hshown, execute_shown]
  have hfirst : Instruction.decodeIn variant a =
      if first.definedIn variant then some first else none := by
    rw [Instruction.decodeIn, ha, Option.filter_some]
  have hsecond : Instruction.decodeIn variant b =
      if first.definedIn variant then some second else none := by
    rw [Instruction.decodeIn, hb, Option.filter_some, hdefined]
  -- either the variant executes both, or it refuses both
  by_cases hvariant : first.definedIn variant = true
  · rw [if_pos hvariant] at hfirst hsecond
    simp only [perform, hfirst, hsecond, hdraws, hexecute]
  · rw [if_neg hvariant] at hfirst hsecond
    rw [perform_of_undefined variant random hfirst, perform_of_undefined variant random hsecond]

/-- **A mnemonic determines what an opcode does.**  Two opcodes with the same
mnemonic do the same to every machine, with the same anomaly or none and the
same use of the random source.  In the extended set a comparison of registers
whose last digit is zero is to be compared with none whose last digit is not. -/
theorem perform_eq_of_mnemonic_eq {a b : Opcode} (h : a.mnemonic = b.mnemonic) {variant : Variant}
    (hdigit : variant = .schip → a.family = 5 ∨ a.family = 9 → (a.n = 0 ↔ b.n = 0))
    (random : ρ) (m : Machine) : m.perform variant random a = m.perform variant random b := by
  -- the common text is read back, and gives one instruction up to what is not shown
  have hshown : (Instruction.decode a).map Instruction.shown =
      (Instruction.decode b).map Instruction.shown := by
    rw [← a.ofMnemonic?_mnemonic, h, b.ofMnemonic?_mnemonic]
  cases ha : Instruction.decode a with
  | none =>
      have hb : Instruction.decode b = none := by simpa [ha] using hshown.symm
      rw [perform_of_undefined variant random (by rw [Instruction.decodeIn, ha]; rfl),
        perform_of_undefined variant random (by rw [Instruction.decodeIn, hb]; rfl)]
  | some first =>
      obtain ⟨second, hb, hsame⟩ : ∃ second, Instruction.decode b = some second ∧
          second.shown = first.shown := by
        simpa [ha] using hshown.symm
      have hdefined : first.definedIn variant = second.definedIn variant := by
        apply Instruction.definedIn_eq_of_shown_eq hsame.symm
        rintro whenEqual x y n whenEqual' x' y' n' rfl rfl hschip
        obtain ⟨hfamily, rfl⟩ := Instruction.of_decode_skipRegister ha
        obtain ⟨-, rfl⟩ := Instruction.of_decode_skipRegister hb
        exact hdigit hschip hfamily
      exact perform_eq_of_shown_eq ha hb hsame.symm hdefined random m

/-- Two comparisons whose last digits are not zero, in the extended set. -/
theorem perform_eq_of_mnemonic_eq_on_comparison :
    let a : Opcode := ⟨9, 3, 1, 2⟩
    let b : Opcode := ⟨9, 3, 1, 7⟩
    a.mnemonic = b.mnemonic ∧
      (Variant.schip = .schip → a.family = 5 ∨ a.family = 9 → (a.n = 0 ↔ b.n = 0)) ∧
      fresh.perform .schip (Cycle.ofList []) a = fresh.perform .schip (Cycle.ofList []) b := by
  intro a b
  have hmnemonic : a.mnemonic = b.mnemonic := by decide +kernel
  have hdigit : Variant.schip = .schip → a.family = 5 ∨ a.family = 9 → (a.n = 0 ↔ b.n = 0) := by
    decide
  exact ⟨hmnemonic, hdigit, perform_eq_of_mnemonic_eq hmnemonic hdigit (Cycle.ofList []) fresh⟩

/-- Without the condition on comparisons this fails: `5010` skips the next
instruction if two registers are equal, and `5011` has the same mnemonic but no
meaning in the extended set. -/
theorem perform_ne_of_mnemonic_eq :
    let m : Machine := fresh.fetched
    m.WellFormed ∧ (⟨5, 0, 1, 0⟩ : Opcode).mnemonic = (⟨5, 0, 1, 1⟩ : Opcode).mnemonic ∧
      (m.perform .schip (Cycle.ofList []) ⟨5, 0, 1, 0⟩).1 =
        .completed { m with pc := m.pc + 2 } ∧
      (m.perform .schip (Cycle.ofList []) ⟨5, 0, 1, 1⟩).1 = .anomalous .unknownOpcode m := by
  intro m
  refine ⟨?_, ?_, rfl, rfl⟩
  · exact WellFormed.fresh.fetched (by decide)
  · decide +kernel

end Machine

end SuperChip
