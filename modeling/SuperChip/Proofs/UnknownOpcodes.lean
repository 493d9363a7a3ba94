import SuperChip.Proofs.Host
import SuperChip.Proofs.Mnemonics
import SuperChip.Proofs.WellFormed

/-!
# The opcodes without meaning

The disassembler shows an opcode as an error if it has no meaning in any
variant.  A machine finds out for itself: it reports an unknown opcode if the
active variant has no instruction for the word that it has fetched.  Both lists
agree.  What the disassembler refuses, no variant executes, whatever the state
of the machine; and what it names, at least one variant executes.

## Strategy

An opcode is shown as an error if and only if `Instruction.decode` refuses it: the
tables of the disassembler have all that the machine decodes and no more, and no
mnemonic reads like an error.  An engine that is about to execute an opcode
reports it as unknown if and only if `Instruction.decodeIn`
refuses it in the variant of the engine, since instructions meet anomalies of
other kinds only.  And every instruction is defined in one of the variants.
-/

namespace SuperChip

namespace Instruction

/-- The extended set has all instructions, and the original set has the
comparisons of registers with any last digit. -/
theorem exists_definedIn (instruction : Instruction) :
    ∃ variant, instruction.definedIn variant = true := by
  cases instruction
  case skipRegister whenEqual x y n => exact ⟨.chip8, rfl⟩
  all_goals exact ⟨.schip, rfl⟩

end Instruction

namespace Opcode

/-- The opcode of an integer is its low word. -/
theorem toNat_ofInt (value : Int) : (ofInt value).toNat = (value % 65536).toNat := by
  have hword := toNat_lowWord value
  have hlt := (lowWord value).toNat_lt
  simp only [ofInt, toNat_ofBytes, UInt8.toNat_ofNat']
  omega

theorem mnemonic_eq_error_iff_decode (op : Opcode) :
    op.mnemonic = "ERROR 0x" ++ Hexadecimal.upper 4 op.toNat ↔ Instruction.decode op = none := by
  constructor
  · intro h
    have hread : Instruction.ofMnemonic? op.mnemonic = none := by
      rw [h]
      exact Instruction.ofMnemonic?_error op.toNat
    rw [ofMnemonic?_mnemonic] at hread
    exact Option.map_eq_none_iff.mp hread
  · exact mnemonic_of_decode_none

end Opcode

namespace Machine

/-- No instruction reports an unknown opcode. -/
theorem execute_ne_unknownOpcode (variant : Variant) (random : Int) (m after : Machine)
    (instruction : Instruction) :
    m.execute variant random instruction ≠ .anomalous .unknownOpcode after := by
  intro h
  -- the instructions that meet anomalies name one of another kind
  cases instruction with
  | ret =>
      simp only [execute, ret] at h
      grind
  | call target =>
      simp only [execute, call] at h
      grind
  | draw x y n =>
      simp only [execute, draw, stamp] at h
      grind [signalRedraw]
  | skipKey whenPressed x =>
      simp only [execute, skipKey] at h
      grind
  | readDelay x =>
      simp only [execute, readDelay] at h
      grind
  | _ => cases h

end Machine

namespace Engine

variable {ρ : Type}

/-- A strict engine of a variant with a listener, in any state in which its next
step executes a word. -/
structure AboutToExecute (e : Engine ρ) (variant : Variant) (word : Nat) : Prop where
  variant_eq : e.variant = variant
  strict : e.strict = true
  listening : e.listening = true
  wellFormed : e.machine.WellFormed
  awake : e.machine.waiting = false
  pc_le : e.machine.pc ≤ 4094
  word_eq : (e.machine.memory.read e.machine.pc).toNat * 256 +
    (e.machine.memory.read (e.machine.pc + 1)).toNat = word

/-- There is such a state for every word. -/
theorem exists_aboutToExecute (variant : Variant) (random : ρ) {word : Nat} (hword : word < 65536) :
    ∃ e : Engine ρ, e.AboutToExecute variant word := by
  obtain ⟨memory, hfirst, hsecond⟩ : ∃ memory : Memory,
      memory.read 512 = UInt8.ofNat (word / 256) ∧ memory.read 513 = UInt8.ofNat word := by
    refine ⟨(Memory.zeroed.write 512 (UInt8.ofNat (word / 256))).write 513 (UInt8.ofNat word),
      ?_, Memory.read_write_self ..⟩
    rw [Memory.read_write, if_neg (by decide), Memory.read_write_self]
  refine ⟨⟨variant, true, true, { Machine.fresh with memory := memory }, random, #[]⟩, ?_⟩
  exact {
    variant_eq := rfl
    strict := rfl
    listening := rfl
    wellFormed := { Machine.WellFormed.fresh with }
    awake := rfl
    pc_le := by
      show (512 : Int) ≤ 4094
      decide
    word_eq := by
      show (memory.read 512).toNat * 256 + (memory.read 513).toNat = word
      rw [hfirst, hsecond, UInt8.toNat_ofNat', UInt8.toNat_ofNat']
      omega }

variable [Generator ρ]

/-- The step of an engine reports an anomaly. -/
def Reports (e : Engine ρ) (anomaly : Anomaly) : Prop :=
  ∃ report : Report, (e.after .step).reports.toList = e.reports.toList ++ [report] ∧
    report.anomaly = anomaly

theorem reports_iff {e : Engine ρ} (hstrict : e.strict = true) (hlistening : e.listening = true)
    (anomaly : Anomaly) :
    e.Reports anomaly ↔ ∃ report ∈ (e.outcome .step).1.report, report.anomaly = anomaly := by
  have hheard : (e.after .step).reports.toList =
      e.reports.toList ++ (e.outcome .step).1.report.toList := by
    simpa [afterAll, anomalies, hstrict, hlistening] using e.toList_reports_afterAll [.step]
  rw [Reports, hheard]
  cases (e.outcome .step).1.report with
  | none => simp
  | some report => simp

/-- The engine reports an unknown opcode if its variant refuses the word. -/
theorem AboutToExecute.reports_iff {e : Engine ρ} {variant : Variant} {op : Opcode}
    (he : e.AboutToExecute variant op.toNat) :
    e.Reports .unknownOpcode ↔ Instruction.decodeIn variant op = none := by
  have hop : e.machine.memory.opcode e.machine.pc = op := by
    apply Opcode.eq_of_toNat_eq
    rw [Memory.opcode, Opcode.toNat_ofBytes, he.word_eq]
  have hnext : e.machine.next = .opcode op := by
    have hpc := he.pc_le
    rw [Machine.next_in_memory he.awake he.wellFormed.pc_range.1 (by omega), hop]
  have houtcome : e.outcome .step = e.machine.step variant e.random := by
    rw [outcome, he.variant_eq]
    rfl
  rw [Engine.reports_iff he.strict he.listening, houtcome,
    Machine.step_of_opcode variant e.random hnext]
  cases hdecode : Instruction.decodeIn variant op with
  | none =>
      rw [Machine.perform_of_undefined variant e.random hdecode]
      simp [Effect.outcome]
  | some instruction =>
      obtain ⟨number, hperform⟩ :=
        Machine.exists_perform_eq_execute (m := e.machine.fetched) variant e.random hdecode
      rw [hperform]
      have hother := Machine.execute_ne_unknownOpcode variant number e.machine.fetched
      cases heffect : e.machine.fetched.execute variant number instruction with
      | completed m => simp [Effect.outcome]
      | faulted fault m => simp [Effect.outcome]
      | anomalous anomaly m =>
          have hne : anomaly ≠ .unknownOpcode := by
            rintro rfl
            exact hother m instruction heffect
          simpa [Effect.outcome] using hne

/-- **The disassembler refuses what no variant executes.**  It shows an integer
as an error with its low word if and only if every strict engine, of either
variant and in any state in which it is about to execute that word, reports an
unknown opcode.  Every other word has a variant in which no such engine does. -/
theorem mnemonic_eq_error_iff [Inhabited ρ] (value : Int) :
    let op := Opcode.ofInt value
    let word := (value % 65536).toNat
    (op.mnemonic = "ERROR 0x" ++ Hexadecimal.upper 4 word ↔
      ∀ (variant : Variant) (e : Engine ρ),
        e.AboutToExecute variant word → e.Reports .unknownOpcode) ∧
    (op.mnemonic ≠ "ERROR 0x" ++ Hexadecimal.upper 4 word →
      ∃ variant : Variant, ∀ e : Engine ρ,
        e.AboutToExecute variant word → ¬ e.Reports .unknownOpcode) := by
  intro op word
  have hword : word = op.toNat := (Opcode.toNat_ofInt value).symm
  rw [hword, ne_eq, Opcode.mnemonic_eq_error_iff_decode]
  -- A word with a meaning has it in one of the variants, in all states.
  have hmeaning : Instruction.decode op ≠ none → ∃ variant : Variant, ∀ e : Engine ρ,
      e.AboutToExecute variant op.toNat → ¬ e.Reports .unknownOpcode := by
    intro hdecode
    obtain ⟨instruction, hinstruction⟩ := Option.ne_none_iff_exists'.mp hdecode
    obtain ⟨variant, hdefined⟩ := instruction.exists_definedIn
    refine ⟨variant, fun e he => ?_⟩
    rw [he.reports_iff, Instruction.decodeIn, hinstruction, Option.filter_some, if_pos hdefined]
    simp
  refine ⟨⟨?_, ?_⟩, hmeaning⟩
  · intro hdecode variant e he
    rw [he.reports_iff, Instruction.decodeIn, hdecode]
    rfl
  · intro hreports
    -- some engine is about to execute the word, so that the reports say something
    by_contra hdecode
    obtain ⟨variant, hnone⟩ := hmeaning hdecode
    obtain ⟨e, he⟩ := exists_aboutToExecute variant (default : ρ) op.toNat_lt
    exact hnone e he (hreports variant e he)

end Engine

end SuperChip
