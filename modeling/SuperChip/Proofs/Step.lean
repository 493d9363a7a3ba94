import SuperChip.Machine.Step
import SuperChip.Proofs.Indices

/-!
# The four ways of a step

What a machine does next decides what its step does, and for each of the four
answers one equation says so.  A fetch fails only where a host has put the
program counter in front of memory.
-/

namespace SuperChip

/-- An effect ends without a fault, in a machine with a property. -/
def Effect.EndsIn (P : Machine → Prop) : Effect → Prop
  | .completed m => P m
  | .anomalous _ m => P m
  | .faulted _ _ => False

theorem Effect.EndsIn.outcome {P : Machine → Prop} {effect : Effect} (h : effect.EndsIn P)
    (pc : Int) (word : Nat) :
    (effect.outcome pc word).fault = none ∧ P (effect.outcome pc word).machine := by
  cases effect with
  | completed m => exact ⟨rfl, h⟩
  | anomalous anomaly m => exact ⟨rfl, h⟩
  | faulted fault m => exact h.elim

/-- The machine that an effect ends in. -/
def Effect.machine : Effect → Machine
  | .completed m => m
  | .anomalous _ m => m
  | .faulted _ m => m

@[simp] theorem Effect.machine_outcome (effect : Effect) (pc : Int) (word : Nat) :
    (effect.outcome pc word).machine = effect.machine := by
  cases effect <;> rfl

namespace Machine

variable {m : Machine}

/-! ## What a machine does next -/

theorem next_of_waiting (hwaiting : m.waiting = true) : m.next = .await := by
  rw [next, if_pos hwaiting]

theorem next_at_end (hwaiting : m.waiting = false) (hend : fetchLimit ≤ m.pc) :
    m.next = .overrun := by
  rw [next, if_neg (by simp [hwaiting]), if_pos hend]

theorem next_in_memory (hwaiting : m.waiting = false) (hlow : 0 ≤ m.pc) (hhigh : m.pc < 4095) :
    m.next = .opcode (m.memory.opcode m.pc) := by
  have hbefore : ¬ fetchLimit ≤ m.pc := by simpa only [fetchLimit, Int.not_le] using hhigh
  rw [next, if_neg (by simp [hwaiting]), if_neg hbefore,
    m.memory.fetch_eq_opcode hlow hhigh]

/-- A machine executes only opcodes in front of the last byte of memory. -/
theorem pc_lt_of_next {op : Opcode} (h : m.next = .opcode op) : m.pc < 4095 := by
  unfold next at h
  split at h
  · cases h
  · split at h
    · cases h
    · rename_i hend
      simp only [fetchLimit] at hend
      omega

theorem at_end_of_next (h : m.next = .overrun) : m.waiting = false ∧ fetchLimit ≤ m.pc := by
  unfold next at h
  split at h
  · cases h
  · rename_i hwaiting
    split at h
    · rename_i hend
      exact ⟨Bool.eq_false_iff.mpr hwaiting, hend⟩
    · split at h
      · cases h
      · cases h

/-- The fetch of an opcode does not fail behind the front of memory. -/
theorem next_ne_unfetched (hlow : 0 ≤ m.pc) (fault : Fault) : m.next ≠ .unfetched fault := by
  intro h
  cases hwaiting : m.waiting with
  | true => simp [next_of_waiting hwaiting] at h
  | false =>
      by_cases hend : fetchLimit ≤ m.pc
      · simp [next_at_end hwaiting hend] at h
      · have hhigh : m.pc < 4095 := by simpa only [fetchLimit, Int.not_le] using hend
        simp [next_in_memory hwaiting hlow hhigh] at h

/-! ## What a step does -/

variable {ρ : Type} [Generator ρ] (variant : Variant) (random : ρ)

theorem step_of_await (h : m.next = .await) :
    m.step variant random = (⟨m.resolveWait, none, none⟩, random) := by
  rw [step, h]

theorem step_of_overrun (h : m.next = .overrun) :
    m.step variant random = (⟨m, some ⟨.pcOverrun, m.pc, 0⟩, none⟩, random) := by
  rw [step, h]

theorem step_of_unfetched {fault : Fault} (h : m.next = .unfetched fault) :
    m.step variant random = (⟨m, none, some fault⟩, random) := by
  rw [step, h]

theorem perform_of_undefined {op : Opcode} (h : Instruction.decodeIn variant op = none) :
    m.perform variant random op = (.anomalous .unknownOpcode m, random) := by
  simp only [perform, h]

/-- Performing an opcode is executing its instruction with some number. -/
theorem exists_perform_eq_execute {op : Opcode} {instruction : Instruction}
    (h : Instruction.decodeIn variant op = some instruction) :
    ∃ number, (m.perform variant random op).1 = m.execute variant number instruction := by
  simp only [perform, h]
  split
  · exact ⟨_, rfl⟩
  · exact ⟨_, rfl⟩

/-- The machine behind the fetch of an opcode. -/
def fetched (m : Machine) : Machine := { m with pc := m.pc + 2 }

theorem step_of_opcode {op : Opcode} (h : m.next = .opcode op) :
    m.step variant random =
      ((m.fetched.perform variant random op).1.outcome m.fetched.pc op.toNat,
        (m.fetched.perform variant random op).2) := by
  rw [step, h]
  rfl

/-- The step of a machine whose opcode has an instruction executes it. -/
theorem exists_step_eq_execute {op : Opcode} (hnext : m.next = .opcode op)
    {instruction : Instruction} (hdecode : Instruction.decodeIn variant op = some instruction) :
    ∃ number, (m.step variant random).1.machine =
      (m.fetched.execute variant number instruction).machine := by
  obtain ⟨number, hperform⟩ :=
    exists_perform_eq_execute (m := m.fetched) variant random hdecode
  refine ⟨number, ?_⟩
  rw [step_of_opcode variant random hnext, Effect.machine_outcome, hperform]

/-- The machines that a step can lead to. -/
inductive Stepped (variant : Variant) (m : Machine) : Machine → Prop
  | awaited : Stepped variant m m.resolveWait
  /-- At the end of memory, or where no opcode can be fetched. -/
  | stayed : Stepped variant m m
  | undefined : Stepped variant m m.fetched
  | executed {op : Opcode} (hnext : m.next = .opcode op) {instruction : Instruction}
      (hdecode : Instruction.decodeIn variant op = some instruction) (number : Int) :
      Stepped variant m (m.fetched.execute variant number instruction).machine

theorem stepped (m : Machine) : Stepped variant m (m.step variant random).1.machine := by
  cases hnext : m.next with
  | await =>
      rw [step_of_await variant random hnext]
      exact .awaited
  | overrun =>
      rw [step_of_overrun variant random hnext]
      exact .stayed
  | unfetched fault =>
      rw [step_of_unfetched variant random hnext]
      exact .stayed
  | opcode op =>
      cases hdecode : Instruction.decodeIn variant op with
      | none =>
          rw [step_of_opcode variant random hnext, perform_of_undefined variant random hdecode]
          exact .undefined
      | some instruction =>
          obtain ⟨number, hmachine⟩ := exists_step_eq_execute variant random hnext hdecode
          rw [hmachine]
          exact .executed hnext hdecode number

end Machine

end SuperChip
