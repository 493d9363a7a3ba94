import SuperChip.Proofs.Host
import SuperChip.Proofs.Step

/-!
# Only the bytes of a random source count

A machine keeps the low byte of each number that it draws, and it looks at
nothing else of its random source.  So the sources of two engines may be
different things and may give different numbers: as long as these have the same
low bytes, engines with one variant and one machine between them stay together
whatever their hosts do to both.

`Together` is this relation, `Together.after` is its step, and the statements
about sequences of actions follow from it by induction.
-/

namespace SuperChip

/-- The numbers that a random source gives, one after the other. -/
def drawn {ρ : Type} [Generator ρ] (random : ρ) : Nat → Int
  | 0 => (Generator.next random).1
  | n + 1 => drawn (Generator.next random).2 n

variable {ρ₁ ρ₂ : Type} [Generator ρ₁] [Generator ρ₂]

/-- Two random sources give numbers with the same low bytes. -/
def SameBytes (first : ρ₁) (second : ρ₂) : Prop :=
  ∀ n, lowByte (drawn first n) = lowByte (drawn second n)

namespace SameBytes

variable {first : ρ₁} {second : ρ₂}

theorem of_drawn_eq (h : ∀ n, drawn first n = drawn second n) : SameBytes first second := by
  intro n
  rw [h n]

theorem head (h : SameBytes first second) :
    lowByte (Generator.next first).1 = lowByte (Generator.next second).1 :=
  h 0

theorem tail (h : SameBytes first second) :
    SameBytes (Generator.next first).2 (Generator.next second).2 :=
  fun n => h (n + 1)

end SameBytes

/-! ## One action -/

namespace Machine

theorem execute_congr {number other : Int} (h : lowByte number = lowByte other)
    (variant : Variant) (m : Machine) (instruction : Instruction) :
    m.execute variant number instruction = m.execute variant other instruction := by
  cases instruction with
  | random x kk => simp only [execute, h]
  | _ => rfl

/-- The next step takes a number from the random source. -/
def takesNumber (variant : Variant) (m : Machine) : Bool :=
  match m.next with
  | .opcode op => (Instruction.decodeIn variant op).any Instruction.drawsRandom
  | _ => false

variable {first : ρ₁} {second : ρ₂} (variant : Variant) (m : Machine)

/-- An opcode does the same with all numbers of one low byte, and with all numbers if
it takes none. -/
theorem perform_congr (op : Opcode)
    (h : (Instruction.decodeIn variant op).any Instruction.drawsRandom = true →
      lowByte (Generator.next first).1 = lowByte (Generator.next second).1) :
    (m.perform variant first op).1 = (m.perform variant second op).1 := by
  unfold perform
  cases hdecode : Instruction.decodeIn variant op with
  | none => rfl
  | some instruction =>
      rw [hdecode, Option.any_some] at h
      dsimp only
      by_cases hdraws : instruction.drawsRandom = true
      · rw [if_pos hdraws, if_pos hdraws]
        exact execute_congr (h hdraws) variant m instruction
      · rw [if_neg hdraws, if_neg hdraws]

theorem random_perform (random : ρ₁) (op : Opcode) :
    (m.perform variant random op).2 =
      if (Instruction.decodeIn variant op).any Instruction.drawsRandom then
        (Generator.next random).2
      else random := by
  unfold perform
  cases hdecode : Instruction.decodeIn variant op with
  | none => rfl
  | some instruction =>
      rw [Option.any_some]
      dsimp only
      split
      · rfl
      · rfl

theorem step_congr
    (h : m.takesNumber variant = true →
      lowByte (Generator.next first).1 = lowByte (Generator.next second).1) :
    (m.step variant first).1 = (m.step variant second).1 := by
  unfold takesNumber at h
  cases hnext : m.next with
  | await => rw [step_of_await variant first hnext, step_of_await variant second hnext]
  | overrun => rw [step_of_overrun variant first hnext, step_of_overrun variant second hnext]
  | unfetched fault =>
      rw [step_of_unfetched variant first hnext, step_of_unfetched variant second hnext]
  | opcode op =>
      rw [hnext] at h
      rw [step_of_opcode variant first hnext, step_of_opcode variant second hnext,
        perform_congr variant m.fetched op h]

/-- A step leaves the random source alone unless it takes a number. -/
theorem random_step (random : ρ₁) :
    (m.step variant random).2 =
      if m.takesNumber variant then (Generator.next random).2 else random := by
  unfold takesNumber
  cases hnext : m.next with
  | await => rw [step_of_await variant random hnext, if_neg Bool.false_ne_true]
  | overrun => rw [step_of_overrun variant random hnext, if_neg Bool.false_ne_true]
  | unfetched fault => rw [step_of_unfetched variant random hnext, if_neg Bool.false_ne_true]
  | opcode op => rw [step_of_opcode variant random hnext, random_perform variant m.fetched]

end Machine

namespace HostAction

/-- An action on a machine takes a number from the random source. -/
def takesNumber (variant : Variant) (m : Machine) : HostAction → Bool
  | step => m.takesNumber variant
  | _ => false

variable {first : ρ₁} {second : ρ₂} (variant : Variant) (m : Machine) (action : HostAction)

theorem outcome_congr
    (h : action.takesNumber variant m = true →
      lowByte (Generator.next first).1 = lowByte (Generator.next second).1) :
    (action.outcome variant first m).1 = (action.outcome variant second m).1 := by
  cases action with
  | step => exact m.step_congr variant h
  | _ => rfl

theorem random_outcome (random : ρ₁) :
    (action.outcome variant random m).2 =
      if action.takesNumber variant m then (Generator.next random).2 else random := by
  cases action with
  | step => exact m.random_step variant random
  | _ => rfl

end HostAction

/-! ## Sequences of actions -/

namespace Engine

/-- Two engines with one variant and one machine between them, whose random
sources give the same bytes. -/
structure Together (first : Engine ρ₁) (second : Engine ρ₂) : Prop where
  variant : first.variant = second.variant
  machine : first.machine = second.machine
  random : SameBytes first.random second.random

namespace Together

variable {first : Engine ρ₁} {second : Engine ρ₂}

theorem outcome (h : Together first second) (action : HostAction) :
    (first.outcome action).1 = (second.outcome action).1 ∧
      SameBytes (first.outcome action).2 (second.outcome action).2 := by
  unfold Engine.outcome
  rw [h.variant, h.machine]
  refine ⟨action.outcome_congr _ _ fun _ => h.random.head, ?_⟩
  rw [action.random_outcome, action.random_outcome]
  split
  · exact h.random.tail
  · exact h.random

theorem after (h : Together first second) (action : HostAction) :
    Together (first.after action) (second.after action) := by
  obtain ⟨houtcome, hrandom⟩ := h.outcome action
  refine ⟨?_, ?_, ?_⟩
  · rw [after_variant, after_variant, h.variant]
  · rw [after_machine, after_machine, houtcome]
  · rw [after_random, after_random]
    exact hrandom

theorem afterAll (h : Together first second) (actions : List HostAction) :
    Together (first.afterAll actions) (second.afterAll actions) := by
  induction actions generalizing first second with
  | nil => exact h
  | cons action rest ih => exact ih (h.after action)

theorem faults (h : Together first second) (actions : List HostAction) :
    first.faults actions = second.faults actions := by
  induction actions generalizing first second with
  | nil => rfl
  | cons action rest ih =>
      have hfault : first.fault? action = second.fault? action := by
        rw [fault_eq, fault_eq, (h.outcome action).1]
      simp only [Engine.faults]
      rw [hfault, ih (h.after action)]

end Together

end Engine

end SuperChip
