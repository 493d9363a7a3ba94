import SuperChip.Proofs.RandomBytes
import SuperChip.Proofs.Words

/-!
# Every random number is loaded by one instruction

A program gets at its random source through the opcodes `Cxkk` alone, and each of them
takes one number and keeps its low byte.  So a run takes as many numbers as it executes
such opcodes, and of these numbers only the low bytes matter.

## Strategy

`Machine.takesNumber` says when a step reaches for the source, in terms of the
instruction; read off the words of the instructions, this is when the machine executes an
opcode of the family `C` (`takesNumber_eq`).  An action then either takes the head of the
source and counts as a load, or leaves the source alone and does not count.  Both
statements about a run follow by induction on its actions: where the source stands
afterwards (`random_afterAll`), and that runs on two sources do not part as long as the
numbers that are loaded have the same low bytes (`sameRun_of_sameBytesFor`).
-/

namespace SuperChip

/-! ## The opcodes that take a number -/

namespace Instruction

variable {op : Opcode} {instruction : Instruction}

theorem decode_of_family_random (h : op.family.val = 0xC) :
    decode op = some (.random op.x op.kk) := by
  simp [decode, h]

/-- The instructions that take a number are those of one family of opcodes. -/
theorem drawsRandom_eq_of_decode (h : decode op = some instruction) :
    instruction.drawsRandom = (op.family.val == 0xC) := by
  by_cases hfamily : op.family.val = 0xC
  · rw [decode_of_family_random hfamily] at h
    cases h
    rw [hfamily]
    rfl
  · rw [beq_false_of_ne hfamily]
    cases instruction with
    | random x kk =>
        have hword := (written_of_decode h).1
        exact absurd (Opcode.parts_of_toNat 0xC hword kk.toNat_lt).1 hfamily
    | _ => rfl

/-- Both variants load random numbers. -/
theorem any_drawsRandom_decodeIn (variant : Variant) (op : Opcode) :
    (decodeIn variant op).any drawsRandom = (op.family.val == 0xC) := by
  cases hdecode : decode op with
  | none =>
      have hfamily : op.family.val ≠ 0xC := by
        intro hfamily
        rw [decode_of_family_random hfamily] at hdecode
        cases hdecode
      rw [decodeIn, hdecode, beq_false_of_ne hfamily]
      rfl
  | some instruction =>
      rw [decodeIn, hdecode, ← drawsRandom_eq_of_decode hdecode, Option.filter_some]
      cases instruction with
      | random x kk => cases variant <;> rfl
      | _ => split <;> rfl

end Instruction

namespace Machine

/-- The machine executes an opcode `Cxkk` in its next step. -/
def loadsRandom (m : Machine) : Bool :=
  match m.next with
  | .opcode op => op.family.val == 0xC
  | _ => false

theorem takesNumber_eq (variant : Variant) (m : Machine) :
    m.takesNumber variant = m.loadsRandom := by
  unfold takesNumber loadsRandom
  cases m.next with
  | opcode op => exact Instruction.any_drawsRandom_decodeIn variant op
  | _ => rfl

end Machine

/-- The machine executes an opcode `Cxkk` in an action of its host. -/
def HostAction.loadsRandom (m : Machine) : HostAction → Bool
  | step => m.loadsRandom
  | _ => false

theorem HostAction.takesNumber_eq (variant : Variant) (m : Machine) (action : HostAction) :
    action.takesNumber variant m = action.loadsRandom m := by
  cases action with
  | step => exact m.takesNumber_eq variant
  | _ => rfl

/-! ## The numbers that are taken -/

/-- The first numbers of two random sources, so many of them, have the same low bytes. -/
def SameBytesFor {ρ₁ ρ₂ : Type} [Generator ρ₁] [Generator ρ₂] (count : Nat) (first : ρ₁)
    (second : ρ₂) : Prop :=
  ∀ n < count, lowByte (drawn first n) = lowByte (drawn second n)

theorem Stream.drawn_eq (stream : Stream) (n : Nat) :
    drawn stream n = stream.value (stream.position + n) := by
  induction n generalizing stream with
  | zero => rfl
  | succ n ih =>
      calc drawn stream (n + 1)
          = drawn { stream with position := stream.position + 1 } n := rfl
        _ = stream.value (stream.position + 1 + n) := ih _
        _ = stream.value (stream.position + (n + 1)) := by
            rw [Nat.add_assoc, Nat.add_comm 1 n]

namespace Engine

section Loads

variable {ρ : Type} [Generator ρ]

/-- The number of opcodes `Cxkk` that are executed in some actions. -/
def randomLoads (e : Engine ρ) : List HostAction → Nat
  | [] => 0
  | action :: rest =>
    (if action.loadsRandom e.machine then 1 else 0) + (e.after action).randomLoads rest

/-- An action that loads a random number takes it off the source, and no other action
touches the source. -/
theorem random_after (e : Engine ρ) (action : HostAction) :
    (e.after action).random =
      if action.loadsRandom e.machine then (Generator.next e.random).2 else e.random := by
  rw [after_random, outcome, action.random_outcome, action.takesNumber_eq]

/-- A stream has advanced by the numbers that were loaded. -/
theorem random_afterAll (e : Engine Stream) (actions : List HostAction) :
    (e.afterAll actions).random =
      ⟨e.random.value, e.random.position + e.randomLoads actions⟩ := by
  induction actions generalizing e with
  | nil => rfl
  | cons action rest ih =>
      rw [afterAll, ih, randomLoads, random_after]
      by_cases hloads : action.loadsRandom e.machine = true
      · rw [if_pos hloads, if_pos hloads, ← Nat.add_assoc]
        rfl
      · rw [if_neg hloads, if_neg hloads, Nat.zero_add]

end Loads

/-! ## Two runs -/

variable {ρ₁ ρ₂ : Type} [Generator ρ₁] [Generator ρ₂]

/-- Two engines have the same machine after each of some actions, and meet the same
faults and the same anomalies; they load as many random numbers. -/
structure SameRun (first : Engine ρ₁) (second : Engine ρ₂) (actions : List HostAction) :
    Prop where
  machine : ∀ earlier, earlier <+: actions →
    (first.afterAll earlier).machine = (second.afterAll earlier).machine
  faults : first.faults actions = second.faults actions
  anomalies : first.anomalies actions = second.anomalies actions
  loads : first.randomLoads actions = second.randomLoads actions

variable {first : Engine ρ₁} {second : Engine ρ₂}

theorem SameRun.nil (hmachine : first.machine = second.machine) : SameRun first second [] where
  machine earlier hearlier := by
    rw [List.prefix_nil.mp hearlier]
    exact hmachine
  faults := rfl
  anomalies := rfl
  loads := rfl

/-- One action with the same outcome for both engines comes in front of a common run. -/
theorem SameRun.cons {action : HostAction} {rest : List HostAction}
    (hmachine : first.machine = second.machine)
    (houtcome : (first.outcome action).1 = (second.outcome action).1)
    (hrest : SameRun (first.after action) (second.after action) rest) :
    SameRun first second (action :: rest) where
  machine earlier hearlier := by
    rcases List.prefix_cons_iff.mp hearlier with rfl | ⟨earlier, rfl, hprefix⟩
    · exact hmachine
    · exact hrest.machine earlier hprefix
  faults := by
    simp only [Engine.faults, fault_eq, houtcome]
    rw [hrest.faults]
  anomalies := by
    simp only [Engine.anomalies, houtcome]
    rw [hrest.anomalies]
  loads := by
    simp only [randomLoads, hmachine]
    rw [hrest.loads]

/-- Only the numbers that are loaded matter, and only their low bytes. -/
theorem sameRun_of_sameBytesFor (hvariant : first.variant = second.variant)
    (hmachine : first.machine = second.machine) {actions : List HostAction}
    (hbytes : SameBytesFor (first.randomLoads actions) first.random second.random) :
    SameRun first second actions := by
  induction actions generalizing first second with
  | nil => exact .nil hmachine
  | cons action rest ih =>
      rw [randomLoads] at hbytes
      -- a random number is taken only if it is one of those that agree
      have houtcome : (first.outcome action).1 = (second.outcome action).1 := by
        unfold outcome
        rw [hvariant, hmachine]
        refine action.outcome_congr _ _ fun htakes => ?_
        rw [action.takesNumber_eq, ← hmachine] at htakes
        rw [if_pos htakes] at hbytes
        exact hbytes 0 (by omega)
      refine .cons hmachine houtcome (ih ?_ ?_ ?_)
      · rw [after_variant, after_variant, hvariant]
      · rw [after_machine, after_machine, houtcome]
      · rw [random_after, random_after, ← hmachine]
        -- behind a number that was taken, the agreement is about the numbers that follow
        by_cases hloads : action.loadsRandom first.machine = true
        · rw [if_pos hloads] at hbytes
          rw [if_pos hloads, if_pos hloads]
          exact fun n hn => hbytes (n + 1) (by omega)
        · rw [if_neg hloads, Nat.zero_add] at hbytes
          rw [if_neg hloads, if_neg hloads]
          exact hbytes

/-- **Only the low bytes of the random numbers matter, one for each load.**  Give the
streams of any integers to two engines with one variant and one machine between them, and
let their hosts do the same with both.  A run takes exactly as many members of its stream
as it executes opcodes `Cxkk`.  If these members agree modulo 256 in both streams, the
engines have the same machine after every action and meet the same faults and anomalies;
so a run that executes no such opcode is the same on all streams. -/
theorem low_bytes_determine_run {first second : Engine Stream}
    (hvariant : first.variant = second.variant) (hmachine : first.machine = second.machine)
    (actions : List HostAction) :
    let loads := first.randomLoads actions
    (first.afterAll actions).random =
      ⟨first.random.value, first.random.position + loads⟩ ∧
    ((∀ n < loads,
        first.random.value (first.random.position + n) % 256 =
          second.random.value (second.random.position + n) % 256) →
      SameRun first second actions) ∧
    (loads = 0 → SameRun first second actions) := by
  intro loads
  refine ⟨first.random_afterAll actions, ?_, ?_⟩
  · intro hbytes
    refine sameRun_of_sameBytesFor hvariant hmachine fun n hn => ?_
    rw [first.random.drawn_eq, second.random.drawn_eq, lowByte, lowByte, hbytes n hn]
  · intro hnone
    refine sameRun_of_sameBytesFor hvariant hmachine fun n hn => ?_
    have hloads : first.randomLoads actions = 0 := hnone
    omega

/-- A program jumps to where a random number sends it and loads a second one there.  Of
the streams, one falls below zero and one starts in the middle and stays above; the third
one is another stream altogether, for actions that load nothing. -/
theorem low_bytes_determine_run_of_jump :
    let first : Engine Stream := fresh .chip8 false true ⟨fun n => 2 - 256 * (n : Int), 0⟩
    let second : Engine Stream := fresh .chip8 true true ⟨fun n => 0xFFFF02 + 512 * (n : Int), 5⟩
    let other : Engine Stream := fresh .chip8 true true ⟨fun _ => 7, 0⟩
    let program : List UInt8 := [0xC0, 0x06, 0xB2, 0x04, 0x00, 0xE0, 0xC1, 0xFF]
    let actions : List HostAction :=
      [.restart program, .step, .tick, .step, .writeKey 3 1, .step]
    first.variant = second.variant ∧ first.machine = second.machine ∧
      first.randomLoads actions = 2 ∧
      (∀ n < 2, first.random.value (first.random.position + n) % 256 =
        second.random.value (second.random.position + n) % 256) ∧
      (first.afterAll actions).machine.v.get 1 = 2 ∧
      (first.afterAll actions).random.position = 2 ∧ SameRun first second actions ∧
      first.randomLoads [.restart program, .tick] = 0 ∧
      SameRun first other [.restart program, .tick] := by
  intro first second other program actions
  have hbytes : ∀ n < 2, first.random.value (first.random.position + n) % 256 =
      second.random.value (second.random.position + n) % 256 := by
    intro n hn
    show (2 - 256 * ((0 + n : Nat) : Int)) % 256 = (0xFFFF02 + 512 * ((5 + n : Nat) : Int)) % 256
    omega
  obtain ⟨hloads, hregister, hnone⟩ : first.randomLoads actions = 2 ∧
      (first.afterAll actions).machine.v.get 1 = 2 ∧
      first.randomLoads [.restart program, .tick] = 0 := by
    decide +kernel
  have hvariant : first.variant = second.variant := rfl
  have hvariant' : first.variant = other.variant := rfl
  obtain ⟨htaken, hsame, -⟩ := low_bytes_determine_run hvariant rfl actions
  obtain ⟨-, -, hother⟩ := low_bytes_determine_run hvariant' rfl [.restart program, .tick]
  rw [hloads] at htaken hsame
  refine ⟨rfl, rfl, hloads, hbytes, hregister, ?_, hsame hbytes, hnone, hother hnone⟩
  rw [htaken]
  rfl

end Engine

end SuperChip
