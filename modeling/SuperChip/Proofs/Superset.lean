import SuperChip.Proofs.Lockstep
import SuperChip.Proofs.Step
import SuperChip.Proofs.Words

/-!
# The extended instruction set is a superset

The two variants give a meaning of their own to a short list of opcodes:
scrolling, resolutions, the exit, big glyphs, persistent flags, comparisons of
registers whose last digit is not zero, and sprites without rows.  As long as a
program fetches none of them, an engine of either variant runs it in lockstep
with one of the other.

## Strategy

`Opcode.dependsOnVariant` is the list, and `Instruction.dependsOnVariant` is
what it means for the instruction that an opcode asks for.  Outside the list an
instruction is defined in both variants or in neither, and executing it never
looks at the variant, since only a sprite without rows has a shape that the
variant decides.  Hence an opcode outside the list is performed alike by any
machine, in either resolution (`perform_eq_of_shared`), and what is left is to
carry this from one step to a sequence of actions (`lockstep_of_shared`).
-/

namespace SuperChip

/-! ## The opcodes that depend on the variant -/

/-- The opcodes that the variants treat differently. -/
def Opcode.dependsOnVariant (op : Opcode) : Bool :=
  match op.family.val, op.x.val, op.y.val, op.n.val with
  -- 00Cn and 00FB to 00FF
  | 0x0, 0x0, 0xC, _ => true
  | 0x0, 0x0, 0xF, n => 0xB ≤ n
  -- 5xyn and 9xyn
  | 0x5, _, _, n => n ≠ 0
  | 0x9, _, _, n => n ≠ 0
  -- Dxy0
  | 0xD, _, _, n => n = 0
  -- Fx30, Fx75 and Fx85
  | 0xF, _, 0x3, 0x0 => true
  | 0xF, _, 0x7, 0x5 => true
  | 0xF, _, 0x8, 0x5 => true
  | _, _, _, _ => false

namespace Instruction

/-- The instructions that the variants treat differently. -/
def dependsOnVariant : Instruction → Bool
  | scrollDown _ => true
  | scrollRight => true
  | scrollLeft => true
  | exit => true
  | switchResolution _ => true
  | skipRegister _ _ _ n => n != 0
  | draw _ _ n => n == 0
  | bigGlyph _ => true
  | saveFlags _ => true
  | loadFlags _ => true
  | _ => false

/-- An opcode outside the list asks for an instruction outside the list. -/
theorem dependsOnVariant_of_decode {op : Opcode} {instruction : Instruction}
    (hdecode : decode op = some instruction) (hshared : op.dependsOnVariant = false) :
    instruction.dependsOnVariant = false := by
  obtain ⟨hword, -⟩ := decode_eq_some_iff.mp hdecode
  cases instruction with
  | scrollDown rows =>
      obtain rfl := eq_of_toNat_eq_scrollDown hword
      cases hshared
  | scrollRight =>
      obtain rfl : op = ⟨0x0, 0x0, 0xF, 0xB⟩ := Opcode.eq_of_toNat_eq hword
      cases hshared
  | scrollLeft =>
      obtain rfl : op = ⟨0x0, 0x0, 0xF, 0xC⟩ := Opcode.eq_of_toNat_eq hword
      cases hshared
  | exit =>
      obtain rfl : op = ⟨0x0, 0x0, 0xF, 0xD⟩ := Opcode.eq_of_toNat_eq hword
      cases hshared
  | switchResolution resolution =>
      cases resolution with
      | low =>
          obtain rfl : op = ⟨0x0, 0x0, 0xF, 0xE⟩ := Opcode.eq_of_toNat_eq hword
          cases hshared
      | high =>
          obtain rfl : op = ⟨0x0, 0x0, 0xF, 0xF⟩ := Opcode.eq_of_toNat_eq hword
          cases hshared
  | skipRegister whenEqual x y n =>
      cases whenEqual with
      | true =>
          obtain ⟨hfamily, -, -, rfl⟩ := Opcode.digits_of_toNat 0x5 hword
          simpa [Opcode.dependsOnVariant, dependsOnVariant, hfamily] using hshared
      | false =>
          obtain ⟨hfamily, -, -, rfl⟩ := Opcode.digits_of_toNat 0x9 hword
          simpa [Opcode.dependsOnVariant, dependsOnVariant, hfamily] using hshared
  | draw x y n =>
      obtain ⟨hfamily, -, -, rfl⟩ := Opcode.digits_of_toNat 0xD hword
      simpa [Opcode.dependsOnVariant, dependsOnVariant, hfamily] using hshared
  | bigGlyph x | saveFlags x | loadFlags x =>
      obtain ⟨hfamily, -, hkk⟩ := Opcode.parts_of_toNat 0xF hword (by decide)
      obtain ⟨hy, hn⟩ := Opcode.digits_of_kk hkk
      simp [Opcode.dependsOnVariant, hfamily, hy, hn] at hshared
  | _ => rfl

/-- An instruction outside the list is defined in both variants or in neither. -/
theorem definedIn_eq {instruction : Instruction}
    (hshared : instruction.dependsOnVariant = false) :
    instruction.definedIn .chip8 = instruction.definedIn .schip := by
  cases instruction
  case skipRegister whenEqual x y n =>
    simp only [dependsOnVariant, bne_eq_false_iff_eq] at hshared
    simp [definedIn, hshared]
  all_goals first | rfl | cases hshared

/-- Both variants ask for the same instruction with an opcode outside the list. -/
theorem decodeIn_eq {op : Opcode} (hshared : op.dependsOnVariant = false) :
    decodeIn .chip8 op = decodeIn .schip op := by
  unfold decodeIn
  cases hdecode : decode op with
  | none => rfl
  | some instruction =>
      have hdefined := definedIn_eq (dependsOnVariant_of_decode hdecode hshared)
      simp only [Option.filter_some, hdefined]

end Instruction

/-! ## Performing a shared opcode -/

namespace Machine

/-- A sprite with rows has the same shape in both variants. -/
theorem spriteShape_eq {n : Fin 16} (hn : n ≠ 0) (variant other : Variant)
    (resolution : Resolution) :
    spriteShape variant resolution n = spriteShape other resolution n := by
  simp [spriteShape, hn]

theorem execute_eq {instruction : Instruction} (hshared : instruction.dependsOnVariant = false)
    (random : Int) (m : Machine) :
    m.execute .chip8 random instruction = m.execute .schip random instruction := by
  cases instruction
  case draw x y n =>
    simp only [Instruction.dependsOnVariant, beq_eq_false_iff_ne] at hshared
    simp only [execute, draw, spriteShape_eq hshared .chip8 .schip]
  all_goals rfl

variable {ρ : Type} [Generator ρ]

/-- An opcode outside the list is performed alike in both variants. -/
theorem perform_eq_of_shared {op : Opcode} (hshared : op.dependsOnVariant = false)
    (random : ρ) (m : Machine) : m.perform .chip8 random op = m.perform .schip random op := by
  unfold perform
  rw [Instruction.decodeIn_eq hshared]
  cases hdecode : Instruction.decodeIn .schip op with
  | none => rfl
  | some instruction =>
      have hinstruction := Instruction.dependsOnVariant_of_decode
        (Instruction.decode_of_decodeIn hdecode) hshared
      simp only [execute_eq hinstruction]

/-- The opcode that the next step of a machine fetches, if it fetches one. -/
def fetched? (m : Machine) : Option Opcode :=
  match m.next with
  | .opcode op => some op
  | _ => none

/-- A step that fetches no opcode of the list is the same in both variants. -/
theorem step_eq_of_shared {m : Machine} (hshared : ∀ op ∈ m.fetched?, op.dependsOnVariant = false)
    (random : ρ) : m.step .chip8 random = m.step .schip random := by
  cases hnext : m.next with
  | await => rw [step_of_await .chip8 random hnext, step_of_await .schip random hnext]
  | overrun => rw [step_of_overrun .chip8 random hnext, step_of_overrun .schip random hnext]
  | unfetched fault =>
      rw [step_of_unfetched .chip8 random hnext, step_of_unfetched .schip random hnext]
  | opcode op =>
      have hop : op.dependsOnVariant = false := hshared op (by simp [fetched?, hnext])
      rw [step_of_opcode .chip8 random hnext, step_of_opcode .schip random hnext,
        perform_eq_of_shared hop]

end Machine

/-- The opcode that an action lets a machine fetch. -/
def HostAction.fetched? (m : Machine) : HostAction → Option Opcode
  | step => m.fetched?
  | _ => none

theorem HostAction.outcome_eq_of_shared {ρ : Type} [Generator ρ] {m : Machine}
    {action : HostAction} (hshared : ∀ op ∈ action.fetched? m, op.dependsOnVariant = false)
    (random : ρ) : action.outcome .chip8 random m = action.outcome .schip random m := by
  cases action
  case step => exact Machine.step_eq_of_shared hshared random
  all_goals rfl

namespace Engine

variable {ρ : Type} [Generator ρ]

/-! ## Whole runs -/

/-- The opcodes that the steps among some actions fetch. -/
def fetched (e : Engine ρ) : List HostAction → List Opcode
  | [] => []
  | action :: rest => (action.fetched? e.machine).toList ++ (e.after action).fetched rest

theorem lockstep_of_shared {chip schip : Engine ρ} (hchip : chip.variant = .chip8)
    (hschip : schip.variant = .schip) (hmachine : chip.machine = schip.machine)
    (hrandom : chip.random = schip.random) {actions : List HostAction}
    (hshared : ∀ op ∈ chip.fetched actions, op.dependsOnVariant = false) :
    Lockstep chip schip actions := by
  induction actions generalizing chip schip with
  | nil => exact .nil hmachine hrandom
  | cons action rest ih =>
      -- the opcode that is fetched here is one of those fetched, so it is shared
      have houtcome : chip.outcome action = schip.outcome action := by
        unfold outcome
        rw [hchip, hschip, ← hmachine, ← hrandom]
        exact HostAction.outcome_eq_of_shared
          (fun op hop => hshared op (by simp [fetched, Option.mem_def.mp hop])) _
      refine .cons houtcome (ih ?_ ?_ ?_ ?_ ?_)
      · rw [after_variant, hchip]
      · rw [after_variant, hschip]
      · rw [after_machine, after_machine, houtcome]
      · rw [after_random, after_random, houtcome]
      · exact fun op hop => hshared op (by simp [fetched, hop])

/-- **The variants agree on the opcodes that they share.**  Restart an engine of
either variant with one program, from the same persistent flags and the same
random source, and let a host do the same to both.  As long as no step fetches
an opcode whose meaning depends on the variant, both have the same machine and
the same random source and meet the same faults, and if they report then they
report the same. -/
theorem variants_agree_on_shared (chip schip : Engine ρ) (hchip : chip.variant = .chip8)
    (hschip : schip.variant = .schip) (hflags : chip.machine.flags = schip.machine.flags)
    (hrandom : chip.random = schip.random) {program : List UInt8}
    (hfits : program.length ≤ programLimit) (actions : List HostAction)
    (hshared : ∀ op ∈ (chip.after (.restart program)).fetched actions,
      op.dependsOnVariant = false) :
    let chip' := chip.after (.restart program)
    let schip' := schip.after (.restart program)
    (chip'.afterAll actions).machine = (schip'.afterAll actions).machine ∧
      (chip'.afterAll actions).random = (schip'.afterAll actions).random ∧
      chip'.faults actions = schip'.faults actions ∧
      (chip.strict = schip.strict → chip.listening = schip.listening →
        ∃ reports : List Report,
          (chip'.afterAll actions).reports.toList = chip.reports.toList ++ reports ∧
            (schip'.afterAll actions).reports.toList = schip.reports.toList ++ reports) := by
  intro chip' schip'
  have hchip' : chip' = { chip with machine := chip.machine.restarted program } :=
    after_restart chip hfits
  have hschip' : schip' = { schip with machine := schip.machine.restarted program } :=
    after_restart schip hfits
  have hmachine : chip'.machine = schip'.machine := by
    rw [hchip', hschip']
    simp only [Machine.restarted, hflags]
  have hrandom' : chip'.random = schip'.random := by
    rw [hchip', hschip', hrandom]
  have hlockstep : Lockstep chip' schip' actions := by
    refine lockstep_of_shared ?_ ?_ hmachine hrandom' hshared
    · rw [after_variant, hchip]
    · rw [after_variant, hschip]
  refine ⟨hlockstep.machine, hlockstep.random, hlockstep.faults, fun hstrict hlistening => ?_⟩
  refine ⟨if chip.strict && chip.listening then chip'.anomalies actions else [], ?_, ?_⟩
  · rw [toList_reports_afterAll]
    simp only [hchip']
  · rw [toList_reports_afterAll, hlockstep.anomalies]
    simp only [hschip', hstrict, hlistening]

/-- The program loads a register and a random byte, meets an opcode without
meaning and draws a sprite of two rows. -/
theorem variants_agree_on_drawing :
    let chip : Engine Cycle := fresh .chip8 true true (.ofList [7, -1])
    let schip : Engine Cycle := fresh .schip true true (.ofList [7, -1])
    let program : List UInt8 := [0x60, 0x05, 0xC1, 0xFF, 0x80, 0x08, 0xD0, 0x12]
    let actions : List HostAction := [.step, .tick, .step, .writeKey 3 1, .step, .step]
    let chip' := chip.after (.restart program)
    let schip' := schip.after (.restart program)
    (∀ op ∈ chip'.fetched actions, op.dependsOnVariant = false) ∧
      chip'.fetched actions = [⟨6, 0, 0, 5⟩, ⟨12, 1, 15, 15⟩, ⟨8, 0, 0, 8⟩, ⟨13, 0, 1, 2⟩] ∧
      (chip'.afterAll actions).machine = (schip'.afterAll actions).machine := by
  intro chip schip program actions chip' schip'
  have hfetched : chip'.fetched actions =
      [⟨6, 0, 0, 5⟩, ⟨12, 1, 15, 15⟩, ⟨8, 0, 0, 8⟩, ⟨13, 0, 1, 2⟩] := by
    decide +kernel
  have hshared : ∀ op ∈ chip'.fetched actions, op.dependsOnVariant = false := by
    rw [hfetched]
    decide
  have hagree := variants_agree_on_shared chip schip rfl rfl rfl rfl
    (show program.length ≤ programLimit by decide) actions hshared
  exact ⟨hshared, hfetched, hagree.1⟩

end Engine

end SuperChip
