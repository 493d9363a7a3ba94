import SuperChip.Proofs.Host
import SuperChip.Proofs.Step

/-!
# Machines that only run programs stay in their ranges

A machine holds integers where a program can only ever put numbers of a certain
size: the address registers, the stack with its pointer, and the timers.
`Machine.WellFormed` gives the ranges, and this file proves that no sequence of
host actions leaves them, and that inside them no step has a fault.

## Strategy

* Behind the fetch of an opcode the program counter is at most 4096, which is
  what a call pushes.  A skip adds two to it, and a jump with an offset reaches
  `0x0FFF + 0xFF = 0x10FE`; nothing goes further, because a machine whose
  program counter is at the last byte or behind it stays where it is.
* An instruction needs more than the ranges to keep them: its own address, if it
  has one, must lie in memory.  Decoding guarantees that (`target_lt_of_decode`).
* `execute_sound` goes through the instructions.  Most of them leave all six
  ranges alone, and the few that do not have a lemma of their own in front.
-/

namespace SuperChip

namespace Machine

/-- The ranges of the numbers that a program can reach. -/
structure WellFormed (m : Machine) : Prop where
  sp_range : 0 ≤ m.sp ∧ m.sp ≤ 16
  pc_range : 0 ≤ m.pc ∧ m.pc ≤ 0x10FE
  i_range : 0 ≤ m.i ∧ m.i ≤ 0xFFFF
  stack_range : ∀ slot : Fin 16, 0 ≤ m.stack.get slot ∧ m.stack.get slot ≤ 4096
  delay_range : 0 ≤ m.delay ∧ m.delay ≤ 255
  sound_range : 0 ≤ m.sound ∧ m.sound ≤ 255

/-- The sizes of what a machine consists of, and the size of its picture. -/
structure Sized (m : Machine) : Prop where
  memory : m.memory.bytes.toArray.size = 4096
  registers : m.v.toArray.size = 16
  plane : m.plane.pixels.toArray.size = 8192
  flags : m.flags.toArray.size = 8
  stack : m.stack.toArray.size = 16
  awaitedRegister : m.awaitedRegister.val < 16
  picture : (m.resolution.width, m.resolution.height) =
    if m.resolution = .high then (128, 64) else (64, 32)

/-- The types of the parts of a machine fix their sizes. -/
theorem sized (m : Machine) : m.Sized where
  memory := m.memory.bytes.size_toArray
  registers := m.v.size_toArray
  plane := m.plane.pixels.size_toArray
  flags := m.flags.size_toArray
  stack := m.stack.size_toArray
  awaitedRegister := m.awaitedRegister.isLt
  picture := by cases m.resolution <;> rfl

variable {m : Machine}

/-! ## Parts of an instruction's work -/

theorem WellFormed.setRegister (hm : m.WellFormed) (x : Fin 16) (value : UInt8) :
    (m.setRegister x value).WellFormed :=
  { hm with }

theorem WellFormed.repaint (hm : m.WellFormed) (plane : Plane) :
    (m.repaint plane).WellFormed :=
  { hm with }

theorem WellFormed.scrollDown (hm : m.WellFormed) (rows : Int) :
    (m.scrollDown rows).WellFormed := by
  unfold Machine.scrollDown
  split
  · exact hm
  · exact hm.repaint _

theorem WellFormed.writeFlag (hm : m.WellFormed) (operation : Arithmetic) (x y : Fin 16) :
    (m.writeFlag operation x y).WellFormed := by
  unfold Machine.writeFlag
  split
  · exact hm.setRegister _ _
  · exact hm

/-- A skip keeps the ranges behind the fetch of an opcode. -/
theorem WellFormed.skipIf (hm : m.WellFormed) (hpc : m.pc ≤ 4096) (condition : Bool) :
    (m.skipIf condition).WellFormed := by
  have hlow := hm.pc_range.1
  unfold Machine.skipIf
  split
  · exact { hm with pc_range := ⟨by simp only; omega, by simp only; omega⟩ }
  · exact hm

theorem WellFormed.withIndex (hm : m.WellFormed) (index : Nat) (hindex : index ≤ 0xFFFF) :
    ({ m with i := index } : Machine).WellFormed :=
  { hm with i_range := ⟨by simp only; omega, by simp only; omega⟩ }

theorem WellFormed.withPc (hm : m.WellFormed) (pc : Nat) (hpc : pc ≤ 0x10FE) :
    ({ m with pc := pc } : Machine).WellFormed :=
  { hm with pc_range := ⟨by simp only; omega, by simp only; omega⟩ }

/-! ## Subroutines -/

/-- A return lowers a positive stack pointer, and what it finds is an address
that a call has pushed. -/
theorem ret_sound (hm : m.WellFormed) : m.ret.EndsIn WellFormed := by
  unfold ret
  split
  · exact hm
  · rename_i hsp
    have hlow := hm.sp_range.1
    have hhigh := hm.sp_range.2
    -- the pointer is positive here, so there is a slot below it
    have hslot : indexIn 16 .stackRead (m.sp - 1) = .ok ⟨(m.sp - 1).toNat, by omega⟩ :=
      indexIn_of_lt 16 _ (by omega) (by omega)
    have hreturn := hm.stack_range ⟨(m.sp - 1).toNat, by omega⟩
    simp only [hslot]
    exact { hm with
      sp_range := ⟨by simp only; omega, by simp only; omega⟩
      pc_range := ⟨hreturn.1, by simp only; omega⟩ }

/-- A call pushes the address behind it, which is at most 4096. -/
theorem call_sound (hm : m.WellFormed) (hpc : m.pc ≤ 4096) {target : Nat}
    (htarget : target < 4096) : (m.call target).EndsIn WellFormed := by
  have hlow := hm.sp_range.1
  unfold call
  split
  · -- a call that finds the stack full leaves it alone and jumps nevertheless
    exact hm.withPc target (by omega)
  · rename_i hfull
    have hslot : indexIn 16 .stackWrite m.sp = .ok ⟨m.sp.toNat, by omega⟩ :=
      indexIn_of_lt 16 _ hlow (by omega)
    simp only [hslot]
    refine { hm with sp_range := ?_, pc_range := ?_, stack_range := ?_ }
    · constructor <;> simp only <;> omega
    · constructor <;> simp only <;> omega
    · intro slot
      simp only [Slots.get_put]
      split
      · exact ⟨hm.pc_range.1, hpc⟩
      · exact hm.stack_range slot

/-! ## Sprites, keys and the delay timer -/

/-- A sprite that does not reach beyond memory can be read. -/
theorem stamp_sound (hm : m.WellFormed) (x y : Nat) (shape : SpriteShape) :
    (m.stamp x y shape).EndsIn WellFormed := by
  unfold stamp
  split
  · exact hm
  · rename_i hfits
    have hlow := hm.i_range.1
    have hread : m.memory.readIndices m.i shape.size = .ok (m.memory.readAll m.i shape.size) :=
      m.memory.readIndices_eq_readAll shape.size (by omega)
        (by simp only [Memory.size] at hfits; omega)
    simp only [hread]
    split
    · exact { hm with }
    · exact { hm with }

private theorem EndsIn.signalRedraw {effect : Effect} (h : effect.EndsIn WellFormed) :
    (Machine.signalRedraw effect).EndsIn WellFormed := by
  cases effect with
  | completed m =>
      have hm : m.WellFormed := h
      exact { hm with }
  | anomalous anomaly m =>
      have hm : m.WellFormed := h
      exact { hm with }
  | faulted fault m => exact h

theorem draw_sound (hm : m.WellFormed) (variant : Variant) (x y n : Fin 16) :
    (m.draw variant x y n).EndsIn WellFormed :=
  EndsIn.signalRedraw (stamp_sound (hm.setRegister _ _) _ _ _)

theorem skipKey_sound (hm : m.WellFormed) (hpc : m.pc ≤ 4096) (whenPressed : Bool)
    (x : Fin 16) : (m.skipKey whenPressed x).EndsIn WellFormed := by
  unfold skipKey
  split
  · exact hm.skipIf hpc _
  · exact hm

/-- The delay timer is a byte, so a register can hold it. -/
theorem readDelay_sound (hm : m.WellFormed) (x : Fin 16) :
    (m.readDelay x).EndsIn WellFormed := by
  have hlow := hm.delay_range.1
  have hhigh := hm.delay_range.2
  rw [readDelay, if_pos ⟨hlow, by omega⟩]
  exact hm.setRegister _ _

/-! ## One step -/

/-- Every instruction whose address lies in memory keeps the ranges. -/
theorem execute_sound (hm : m.WellFormed) (hpc : m.pc ≤ 4096) {instruction : Instruction}
    (htarget : ∀ target, instruction.target? = some target → target < 4096)
    (variant : Variant) (random : Int) :
    (m.execute variant random instruction).EndsIn WellFormed := by
  -- the ranges are at stake where an address, a timer or the stack is written
  cases instruction with
  | clear => exact hm.repaint _
  | ret => exact ret_sound hm
  | scrollDown rows => exact hm.scrollDown _
  | scrollRight => exact hm.repaint _
  | scrollLeft => exact hm.repaint _
  | exit => exact hm
  | switchResolution resolution => exact { hm with }
  | jump target => exact hm.withPc target (by have := htarget target rfl; omega)
  | call target => exact call_sound hm hpc (htarget target rfl)
  | skipImmediate whenEqual x kk => exact hm.skipIf hpc _
  | skipRegister whenEqual x y n => exact hm.skipIf hpc _
  | loadImmediate x kk => exact hm.setRegister _ _
  | addImmediate x kk => exact hm.setRegister _ _
  | combine operation x y => exact (hm.writeFlag _ _ _).setRegister _ _
  | loadIndex target => exact hm.withIndex target (by have := htarget target rfl; omega)
  | jumpOffset target =>
      have hbase := htarget target rfl
      have hoffset := (m.v.get 0).toNat_lt
      exact hm.withPc (target + (m.v.get 0).toNat) (by omega)
  | random x kk => exact hm.setRegister _ _
  | draw x y n => exact draw_sound hm _ _ _ _
  | skipKey whenPressed x => exact skipKey_sound hm hpc _ _
  | readDelay x => exact readDelay_sound hm x
  | awaitKey x => exact { hm with }
  | setDelay x =>
      have hbyte := (m.v.get x).toNat_lt
      exact { hm with delay_range := by constructor <;> simp only <;> omega }
  | setSound x =>
      have hbyte := (m.v.get x).toNat_lt
      exact { hm with sound_range := by constructor <;> simp only <;> omega }
  | addIndex x =>
      have hword := (lowWord (m.i + (m.v.get x).toNat)).toNat_lt
      exact hm.withIndex _ (by omega)
  | smallGlyph x =>
      have hbyte := (m.v.get x).toNat_lt
      exact hm.withIndex ((m.v.get x).toNat * Font.smallHeight)
        (by simp only [Font.smallHeight]; omega)
  | bigGlyph x =>
      have hbyte := (m.v.get x).toNat_lt
      exact hm.withIndex (Font.bigBase + (m.v.get x).toNat * Font.bigHeight)
        (by simp only [Font.bigBase, Font.bigHeight]; omega)
  | decimal x => exact { hm with }
  | store x => exact { hm with }
  | load x => exact { hm with }
  | saveFlags x => exact { hm with }
  | loadFlags x => exact { hm with }

variable {ρ : Type} [Generator ρ]

theorem perform_sound (hm : m.WellFormed) (hpc : m.pc ≤ 4096) (variant : Variant) (random : ρ)
    (op : Opcode) : (m.perform variant random op).1.EndsIn WellFormed := by
  unfold perform
  cases hdecode : Instruction.decodeIn variant op with
  | none => exact hm
  | some instruction =>
      have htarget : ∀ target, instruction.target? = some target → target < 4096 :=
        fun target => Instruction.target_lt_of_decode (Instruction.decode_of_decodeIn hdecode)
      dsimp only
      split
      · exact execute_sound hm hpc htarget _ _
      · exact execute_sound hm hpc htarget _ _

theorem WellFormed.fetched (hm : m.WellFormed) (hpc : m.pc < 4095) : m.fetched.WellFormed := by
  have hlow := hm.pc_range.1
  exact { hm with pc_range := by constructor <;> simp only [Machine.fetched] <;> omega }

theorem WellFormed.resolveWait (hm : m.WellFormed) : m.resolveWait.WellFormed := by
  unfold Machine.resolveWait
  split
  · exact { hm with }
  · exact hm

/-- A step of a machine in its ranges has no fault and keeps them. -/
theorem step_sound (hm : m.WellFormed) (variant : Variant) (random : ρ) :
    (m.step variant random).1.fault = none ∧
      (m.step variant random).1.machine.WellFormed := by
  cases hnext : m.next with
  | await =>
      rw [step_of_await variant random hnext]
      exact ⟨rfl, hm.resolveWait⟩
  | overrun =>
      rw [step_of_overrun variant random hnext]
      exact ⟨rfl, hm⟩
  | opcode op =>
      have hpc := pc_lt_of_next hnext
      rw [step_of_opcode variant random hnext]
      refine (perform_sound (hm.fetched hpc) ?_ variant random op).outcome _ _
      -- behind an opcode the program counter is at most 4096
      simp only [Machine.fetched]
      omega
  | unfetched fault => exact absurd hnext (next_ne_unfetched hm.pc_range.1 fault)

/-! ## Sequences of host actions -/

theorem WellFormed.fresh : Machine.fresh.WellFormed where
  sp_range := by decide
  pc_range := by decide
  i_range := by decide
  stack_range slot := by simp [Machine.fresh, Vector.get]
  delay_range := by decide
  sound_range := by decide

theorem WellFormed.restarted (m : Machine) (program : List UInt8) :
    (m.restarted program).WellFormed :=
  { WellFormed.fresh with }

theorem WellFormed.tick (hm : m.WellFormed) : m.tick.WellFormed := by
  obtain ⟨hdelay, hdelay'⟩ := hm.delay_range
  obtain ⟨hsound, hsound'⟩ := hm.sound_range
  exact { hm with
    delay_range := by simp only [Machine.tick]; split <;> omega
    sound_range := by simp only [Machine.tick]; split <;> omega }

/-- No action of a host leads out of the ranges, whether it fails or not. -/
theorem WellFormed.outcome (hm : m.WellFormed) (variant : Variant) (random : ρ)
    (action : HostAction) : (action.outcome variant random m).1.machine.WellFormed := by
  cases action with
  | restart program =>
      simp only [HostAction.outcome, restart]
      split
      · exact hm
      · exact WellFormed.restarted m program
  | step => exact (step_sound hm variant random).2
  | tick => exact hm.tick
  | loadBlock address block =>
      simp only [HostAction.outcome, loadBlock]
      cases m.memory.load address block with
      | ok memory => exact { hm with }
      | error fault => exact hm
  | writeByte address value => exact { hm with }
  | writeKey key value => exact { hm with }
  | takeRedraw => exact { hm with }
  | takeBeep => exact { hm with }

end Machine

namespace Engine

variable {ρ : Type} [Generator ρ]

theorem wellFormed_afterAll {e : Engine ρ} (h : e.machine.WellFormed)
    (actions : List HostAction) : (e.afterAll actions).machine.WellFormed := by
  induction actions generalizing e with
  | nil => exact h
  | cons action rest ih =>
      refine ih ?_
      rw [after_machine]
      exact h.outcome _ _ action

/-- **A machine never leaves its ranges, and inside them nothing fails.**  Every
engine that a host reaches from a fresh one has a machine of the right sizes
whose numbers are in their ranges, and its steps and ticks have no fault. -/
theorem reached_wellFormed (variant : Variant) (strict listening : Bool) (random : ρ)
    (actions : List HostAction) :
    let e := (fresh variant strict listening random).afterAll actions
    e.machine.Sized ∧ e.machine.WellFormed ∧
      step e = .ok () (e.after .step) ∧ tick e = .ok () (e.after .tick) := by
  intro e
  have hfresh : (fresh variant strict listening random).machine.WellFormed :=
    Machine.WellFormed.fresh
  have hm : e.machine.WellFormed := wellFormed_afterAll hfresh actions
  have hstep : e.fault? .step = none := by
    rw [fault_eq]
    exact (Machine.step_sound hm e.variant e.random).1
  exact ⟨e.machine.sized, hm, Attempt.ok_of_fault?_eq_none hstep, rfl⟩

end Engine

end SuperChip
