import SuperChip.Proofs.WellFormed
import SuperChip.Proofs.Words

/-!
# Calls and returns

A call puts the address behind it into the first free slot of the stack, and a
return takes the address out of the last slot in use.  Neither touches a slot
further down, and nothing else touches the stack at all.  So the slots of a
subroutine and of its callers keep their values until it returns, and then it
returns behind the call, whatever it does in between: it may call further
subroutines, fill the stack so that calls jump without pushing, or return more
often than it called, as long as it does not go below its own slot.

## Strategy

`StackChange` lists the three things that a step can do to the stack, each with
the opcode that does it (`StackChange.of_step`).  A slot below the pointer survives
all three (`StackChange.get_stack`), which goes from one action to sequences by
induction (`get_stack_afterAll`).  The step that brings the pointer back can only
be a return, and the slot that it reads is one that has survived.
-/

namespace SuperChip

/-! ## The opcodes of calls and returns -/

namespace Instruction

theorem decode_of_family_eq_two {op : Opcode} (hfamily : op.family.val = 2) :
    decode op = some (.call op.nnn) := by
  simp [decode, hfamily]

theorem decode_of_toNat_eq_00EE {op : Opcode} (hop : op.toNat = 0x00EE) :
    decode op = some .ret :=
  decode_eq_some_iff.mpr ⟨hop, trivial⟩

/-- What is known of an opcode that asks for a call or for a return. -/
def SubroutineForm (op : Opcode) : Instruction → Prop
  | call target => op.family.val = 2 ∧ target = op.nnn
  | ret => op.toNat = 0x00EE
  | _ => True

theorem subroutineForm_of_decode {op : Opcode} {instruction : Instruction}
    (h : decode op = some instruction) : instruction.SubroutineForm op := by
  obtain ⟨hword, hwritable⟩ := decode_eq_some_iff.mp h
  cases instruction with
  | call target =>
      obtain ⟨hfamily, hnnn⟩ := Opcode.target_of_toNat 0x2 hword hwritable
      exact ⟨hfamily, hnnn.symm⟩
  | ret => exact hword
  | _ => trivial

end Instruction

namespace Machine

/-! ## Calls and returns by themselves -/

variable {m : Machine}

theorem call_of_room (target : Nat) {slot : Fin 16} (hslot : (slot.val : Int) = m.sp) :
    m.call target = .completed { m with
      stack := Slots.put m.stack slot m.pc, sp := m.sp + 1, pc := target } := by
  have hfull : ¬ 16 ≤ m.sp := by omega
  have hindex : indexIn 16 .stackWrite m.sp = .ok ⟨m.sp.toNat, by omega⟩ :=
    indexIn_of_lt 16 .stackWrite (by omega) (by omega)
  have hfound : (⟨m.sp.toNat, by omega⟩ : Fin 16) = slot := by
    apply Fin.ext
    simp only
    omega
  simp only [call, if_neg hfull, hindex, hfound]

theorem call_of_full (target : Nat) (hfull : 16 ≤ m.sp) :
    m.call target = .anomalous .stackOverflow { m with pc := target } := by
  rw [call, if_pos hfull]

theorem ret_of_called {slot : Fin 16} (hslot : (slot.val : Int) + 1 = m.sp) :
    m.ret = .completed { m with sp := m.sp - 1, pc := m.stack.get slot } := by
  have hcalled : ¬ m.sp = 0 := by omega
  have hindex : indexIn 16 .stackRead (m.sp - 1) = .ok ⟨(m.sp - 1).toNat, by omega⟩ :=
    indexIn_of_lt 16 .stackRead (by omega) (by omega)
  have hfound : (⟨(m.sp - 1).toNat, by omega⟩ : Fin 16) = slot := by
    apply Fin.ext
    simp only
    omega
  simp only [ret, if_neg hcalled, hindex, hfound]

theorem ret_of_empty (hempty : m.sp = 0) : m.ret = .anomalous .stackUnderflow m := by
  rw [ret, if_pos hempty]

theorem WellFormed.full_or_free (hm : m.WellFormed) :
    m.sp = 16 ∨ ∃ free : Fin 16, (free.val : Int) = m.sp := by
  obtain ⟨hlow, hhigh⟩ := hm.sp_range
  by_cases hfull : m.sp = 16
  · exact .inl hfull
  · refine .inr ⟨⟨m.sp.toNat, by omega⟩, ?_⟩
    simp only
    omega

theorem WellFormed.empty_or_used (hm : m.WellFormed) :
    m.sp = 0 ∨ ∃ slot : Fin 16, (slot.val : Int) + 1 = m.sp := by
  obtain ⟨hlow, hhigh⟩ := hm.sp_range
  by_cases hempty : m.sp = 0
  · exact .inl hempty
  · refine .inr ⟨⟨m.sp.toNat - 1, by omega⟩, ?_⟩
    simp only
    omega

/-! ## What one step does to the stack -/

/-- Two machines have the same stack and the same stack pointer. -/
structure SameStack (before after : Machine) : Prop where
  sp : after.sp = before.sp
  stack : after.stack = before.stack

theorem SameStack.refl (m : Machine) : SameStack m m := ⟨rfl, rfl⟩

/-- No instruction but a call and a return has to do with the stack. -/
theorem Executed.sameStack {m after : Machine} {instruction : Instruction}
    (h : Executed m instruction after) (hcall : ∀ target, instruction ≠ .call target)
    (hret : instruction ≠ .ret) : SameStack m after := by
  cases h with
  | called target => exact absurd rfl (hcall target)
  | returned => exact absurd rfl hret
  | _ => exact ⟨rfl, rfl⟩

/-- The three things that a step can do to the stack. -/
inductive StackChange (before after : Machine) : Prop
  | kept (hsame : SameStack before after)
  /-- A call puts the address behind it into the slot at the pointer. -/
  | called (op : Opcode) (hnext : before.next = .opcode op) (hop : op.family.val = 2)
      (slot : Fin 16) (hslot : (slot.val : Int) = before.sp)
      (hstack : after.stack = Slots.put before.stack slot (before.pc + 2))
      (hsp : after.sp = before.sp + 1)
  /-- A return goes to the address in the slot below the pointer. -/
  | returned (op : Opcode) (hnext : before.next = .opcode op) (hop : op.toNat = 0x00EE)
      (slot : Fin 16) (hslot : (slot.val : Int) + 1 = before.sp)
      (hstack : after.stack = before.stack) (hsp : after.sp = before.sp - 1)
      (hpc : after.pc = before.stack.get slot)

namespace StackChange

theorem of_execute {m : Machine} (hm : m.WellFormed) {op : Opcode} (hnext : m.next = .opcode op)
    (variant : Variant) (number : Int) {instruction : Instruction}
    (hform : instruction.SubroutineForm op) :
    StackChange m (m.fetched.execute variant number instruction).machine := by
  -- only calls and returns touch the stack, and each may find no room for it
  by_cases hcall : ∃ target, instruction = .call target
  · obtain ⟨target, rfl⟩ := hcall
    obtain ⟨hfamily, rfl⟩ := hform
    show StackChange m (m.fetched.call op.nnn).machine
    rcases hm.full_or_free with hfull | ⟨free, hfree⟩
    · rw [call_of_full op.nnn (m := m.fetched) (Int.le_of_eq hfull.symm)]
      exact .kept ⟨rfl, rfl⟩
    · rw [call_of_room op.nnn (m := m.fetched) hfree]
      exact .called op hnext hfamily free hfree rfl rfl
  · by_cases hret : instruction = .ret
    · subst hret
      show StackChange m m.fetched.ret.machine
      rcases hm.empty_or_used with hempty | ⟨slot, hslot⟩
      · rw [ret_of_empty (m := m.fetched) hempty]
        exact .kept ⟨rfl, rfl⟩
      · rw [ret_of_called (m := m.fetched) hslot]
        exact .returned op hnext hform slot hslot rfl rfl rfl
    · have hsame := (m.fetched.executed variant number instruction).sameStack
        (fun target h => hcall ⟨target, h⟩) hret
      exact .kept ⟨hsame.sp, hsame.stack⟩

theorem of_stepped {m after : Machine} (hm : m.WellFormed) {variant : Variant}
    (h : Stepped variant m after) : StackChange m after := by
  cases h with
  | awaited =>
      obtain ⟨v, waiting, hresolved⟩ := m.exists_resolveWait_eq
      rw [hresolved]
      exact .kept ⟨rfl, rfl⟩
  | stayed => exact .kept (.refl m)
  | undefined => exact .kept ⟨rfl, rfl⟩
  | executed hnext hdecode number =>
      exact of_execute hm hnext variant number
        (Instruction.subroutineForm_of_decode (Instruction.decode_of_decodeIn hdecode))

variable {ρ : Type} [Generator ρ]

theorem of_step {m : Machine} (hm : m.WellFormed) (variant : Variant) (random : ρ) :
    StackChange m (m.step variant random).1.machine :=
  of_stepped hm (stepped variant random m)

/-- Only a step does anything to the stack, unless the host restarts the machine. -/
theorem of_outcome {m : Machine} (hm : m.WellFormed) (variant : Variant) (random : ρ)
    {action : HostAction} (hrestart : ∀ program, action ≠ .restart program) :
    StackChange m (action.outcome variant random m).1.machine ∧
      (action = .step ∨ SameStack m (action.outcome variant random m).1.machine) := by
  by_cases hstep : action = .step
  · subst hstep
    exact ⟨of_step hm variant random, .inl rfl⟩
  · have hsame : SameStack m (action.outcome variant random m).1.machine := by
      cases action with
      | restart program => exact absurd rfl (hrestart program)
      | step => exact absurd rfl hstep
      | loadBlock address block =>
          simp only [HostAction.outcome, loadBlock]
          cases m.memory.load address block with
          | ok memory => exact ⟨rfl, rfl⟩
          | error fault => exact ⟨rfl, rfl⟩
      | _ => exact ⟨rfl, rfl⟩
    exact ⟨.kept hsame, .inr hsame⟩

/-- A step moves the stack pointer by at most one. -/
theorem sp_le {before after : Machine} (h : StackChange before after) :
    before.sp - 1 ≤ after.sp ∧ after.sp ≤ before.sp + 1 := by
  cases h with
  | kept hsame =>
      rw [hsame.sp]
      omega
  | called _ _ _ _ _ _ hsp => omega
  | returned _ _ _ _ _ _ hsp _ => omega

/-- A step does not touch the slots below the stack pointer. -/
theorem get_stack {before after : Machine} (h : StackChange before after) {slot : Fin 16}
    (hslot : (slot.val : Int) < before.sp) : after.stack.get slot = before.stack.get slot := by
  cases h with
  | kept hsame => rw [hsame.stack]
  | called _ _ _ pushed hpushed hstack _ =>
      have hne : pushed ≠ slot := by
        intro heq
        rw [heq] at hpushed
        omega
      rw [hstack, Slots.get_put, if_neg hne]
  | returned _ _ _ _ _ hstack _ _ => rw [hstack]

end StackChange

/-! ## Calls and returns in a step -/

section Step

variable {m : Machine} {ρ : Type} [Generator ρ] (variant : Variant) (random : ρ)

theorem step_of_family_eq_two {op : Opcode} (hnext : m.next = .opcode op)
    (hfamily : op.family.val = 2) :
    (m.step variant random).1.machine = (m.fetched.call op.nnn).machine := by
  have hdecode : Instruction.decodeIn variant op = some (.call op.nnn) := by
    rw [Instruction.decodeIn, Instruction.decode_of_family_eq_two hfamily]
    cases variant <;> rfl
  obtain ⟨number, hmachine⟩ := exists_step_eq_execute variant random hnext hdecode
  rw [hmachine]
  rfl

theorem step_of_toNat_eq_00EE {op : Opcode} (hnext : m.next = .opcode op)
    (hop : op.toNat = 0x00EE) :
    (m.step variant random).1.machine = m.fetched.ret.machine := by
  have hdecode : Instruction.decodeIn variant op = some .ret := by
    rw [Instruction.decodeIn, Instruction.decode_of_toNat_eq_00EE hop]
    cases variant <;> rfl
  obtain ⟨number, hmachine⟩ := exists_step_eq_execute variant random hnext hdecode
  rw [hmachine]
  rfl

end Step

end Machine

/-! ## Whole runs -/

namespace Engine

variable {ρ : Type} [Generator ρ]

theorem stackChange_after {e : Engine ρ} (hm : e.machine.WellFormed) {action : HostAction}
    (hrestart : ∀ program, action ≠ .restart program) :
    Machine.StackChange e.machine (e.after action).machine ∧
      (action = .step ∨ Machine.SameStack e.machine (e.after action).machine) := by
  rw [after_machine]
  exact Machine.StackChange.of_outcome hm e.variant e.random hrestart

/-- As long as the stack pointer stays above a slot, the slot keeps its value. -/
theorem get_stack_afterAll {e : Engine ρ} (hm : e.machine.WellFormed) {actions : List HostAction}
    (hrestart : ∀ action ∈ actions, ∀ program, action ≠ .restart program) {slot : Fin 16}
    (habove : ∀ before, before <+: actions → (slot.val : Int) < (e.afterAll before).machine.sp) :
    (e.afterAll actions).machine.stack.get slot = e.machine.stack.get slot := by
  induction actions generalizing e with
  | nil => rfl
  | cons action rest ih =>
      have hfirst := hrestart action List.mem_cons_self
      obtain ⟨hchange, -⟩ := stackChange_after hm hfirst
      have hslot : (slot.val : Int) < e.machine.sp := habove [] List.nil_prefix
      have hrest : ((e.after action).afterAll rest).machine.stack.get slot =
          (e.after action).machine.stack.get slot := by
        refine ih ?_ ?_ ?_
        · rw [after_machine]
          exact hm.outcome e.variant e.random action
        · intro later hlater
          exact hrestart later (List.mem_cons_of_mem _ hlater)
        · intro before hbefore
          exact habove (action :: before) (List.cons_prefix_cons.mpr ⟨rfl, hbefore⟩)
      exact hrest.trans (hchange.get_stack hslot)

/-- If the stack pointer comes down to a slot in use, then by a return to the
address in this slot. -/
theorem returned_of_back {e : Engine ρ} (hm : e.machine.WellFormed) {action : HostAction}
    (hrestart : ∀ program, action ≠ .restart program) {slot : Fin 16}
    (hused : (slot.val : Int) < e.machine.sp)
    (hback : (e.after action).machine.sp ≤ (slot.val : Int)) :
    action = .step ∧ (e.after action).machine.sp = slot.val ∧
      (∃ op, e.machine.next = .opcode op ∧ op.toNat = 0x00EE) ∧
      (e.after action).machine.pc = e.machine.stack.get slot := by
  obtain ⟨hchange, hwho⟩ := stackChange_after hm hrestart
  have hmoved : (e.after action).machine.sp < e.machine.sp := by omega
  cases hchange with
  | kept hsame =>
      have hsp := hsame.sp
      omega
  | called _ _ _ _ _ _ hsp => omega
  | returned op hnext hop last hlast _ hsp hpc =>
      have hstep : action = .step := by
        rcases hwho with hstep | hsame
        · exact hstep
        · have hsp := hsame.sp
          omega
      have heq : last = slot := Fin.ext (by omega)
      rw [heq] at hpc
      exact ⟨hstep, by omega, ⟨op, hnext, hop⟩, hpc⟩

/-- What a call with room does: it uses the slot at the pointer. -/
theorem called_of_room {e : Engine ρ} {op : Opcode} (hnext : e.machine.next = .opcode op)
    (hfamily : op.family.val = 2) {slot : Fin 16} (hslot : (slot.val : Int) = e.machine.sp) :
    (e.after .step).machine.sp = e.machine.sp + 1 ∧
      (e.after .step).machine.stack = Slots.put e.machine.stack slot (e.machine.pc + 2) := by
  have hcalled : (e.after .step).machine = (e.machine.step e.variant e.random).1.machine :=
    e.after_machine .step
  rw [hcalled, Machine.step_of_family_eq_two e.variant e.random hnext hfamily,
    Machine.call_of_room op.nnn (m := e.machine.fetched) hslot]
  exact ⟨rfl, rfl⟩

/-- Up to the slot of a call with room, the stack keeps what the call has left there
as long as the pointer stays above this slot. -/
theorem get_stack_of_called {e : Engine ρ} (hm : e.machine.WellFormed) {op : Opcode}
    (hnext : e.machine.next = .opcode op) (hfamily : op.family.val = 2) {own : Fin 16}
    (hown : (own.val : Int) = e.machine.sp) {actions : List HostAction}
    (hrestart : ∀ action ∈ actions, ∀ program, action ≠ .restart program)
    (habove : ∀ before, before <+: actions →
      e.machine.sp < ((e.after .step).afterAll before).machine.sp)
    {slot : Fin 16} (hslot : (slot.val : Int) ≤ e.machine.sp) :
    ((e.after .step).afterAll actions).machine.stack.get slot =
      if own = slot then e.machine.pc + 2 else e.machine.stack.get slot := by
  have hcalled : (e.after .step).machine.WellFormed := wellFormed_afterAll hm [.step]
  obtain ⟨-, hstack⟩ := called_of_room hnext hfamily hown
  rw [← Slots.get_put, ← hstack]
  refine get_stack_afterAll hcalled hrestart ?_
  intro before hbefore
  have hdeep := habove before hbefore
  omega

/-- **A subroutine returns behind its call.**  A step moves the stack pointer by
at most one, and it leaves pointer and stack alone if it is a return with nothing
to return to or a call with no room.  From a call with room on, as long as nothing
restarts the engine and the pointer stays above the slot of the call, this slot
holds the address behind the call and the slots below it hold what they held
before; and what brings the pointer back is a return to that address. -/
theorem calls_return (e : Engine ρ) (hm : e.machine.WellFormed) :
    let called := e.after .step
    (e.machine.sp - 1 ≤ called.machine.sp ∧ called.machine.sp ≤ e.machine.sp + 1) ∧
    (∀ op, e.machine.next = .opcode op → op.toNat = 0x00EE → e.machine.sp = 0 →
      called.machine.sp = 0 ∧ called.machine.stack = e.machine.stack) ∧
    (∀ op, e.machine.next = .opcode op → op.family.val = 2 → e.machine.sp = 16 →
      called.machine.sp = 16 ∧ called.machine.stack = e.machine.stack) ∧
    (∀ op, e.machine.next = .opcode op → op.family.val = 2 → e.machine.sp < 16 →
      called.machine.sp = e.machine.sp + 1 ∧
      ∀ actions : List HostAction,
        (∀ action ∈ actions, ∀ program, action ≠ .restart program) →
        (∀ before, before <+: actions →
          e.machine.sp < (called.afterAll before).machine.sp) →
        let later := called.afterAll actions
        (∀ slot : Fin 16, (slot.val : Int) < e.machine.sp →
          later.machine.stack.get slot = e.machine.stack.get slot) ∧
        (∀ slot : Fin 16, (slot.val : Int) = e.machine.sp →
          later.machine.stack.get slot = e.machine.pc + 2) ∧
        ∀ action : HostAction, (∀ program, action ≠ .restart program) →
          (later.after action).machine.sp ≤ e.machine.sp →
          action = .step ∧ (later.after action).machine.sp = e.machine.sp ∧
            (∃ op, later.machine.next = .opcode op ∧ op.toNat = 0x00EE) ∧
            (later.after action).machine.pc = e.machine.pc + 2) := by
  intro called
  have hcalled : called.machine = (e.machine.step e.variant e.random).1.machine :=
    e.after_machine .step
  refine ⟨?_, ?_, ?_, ?_⟩
  · rw [hcalled]
    exact (Machine.StackChange.of_step hm e.variant e.random).sp_le
  · intro op hnext hop hempty
    rw [hcalled, Machine.step_of_toNat_eq_00EE e.variant e.random hnext hop,
      Machine.ret_of_empty (m := e.machine.fetched) hempty]
    exact ⟨hempty, rfl⟩
  · intro op hnext hfamily hfull
    rw [hcalled, Machine.step_of_family_eq_two e.variant e.random hnext hfamily,
      Machine.call_of_full op.nnn (m := e.machine.fetched) (Int.le_of_eq hfull.symm)]
    exact ⟨hfull, rfl⟩
  · intro op hnext hfamily hroom
    have hlow := hm.sp_range.1
    obtain ⟨own, hown⟩ : ∃ own : Fin 16, (own.val : Int) = e.machine.sp :=
      ⟨⟨e.machine.sp.toNat, by omega⟩, by simp only; omega⟩
    refine ⟨(called_of_room hnext hfamily hown).1, ?_⟩
    intro actions hrestart habove later
    have hlater : later.machine.WellFormed := wellFormed_afterAll hm (.step :: actions)
    have hkept : ∀ slot : Fin 16, (slot.val : Int) ≤ e.machine.sp →
        later.machine.stack.get slot = if own = slot then e.machine.pc + 2
          else e.machine.stack.get slot :=
      fun slot hslot => get_stack_of_called hm hnext hfamily hown hrestart habove hslot
    have hreturn : later.machine.stack.get own = e.machine.pc + 2 := by
      rw [hkept own (by omega), if_pos rfl]
    refine ⟨?_, ?_, ?_⟩
    · intro slot hslot
      have hne : own ≠ slot := by
        intro heq
        rw [heq] at hown
        omega
      rw [hkept slot (by omega), if_neg hne]
    · intro slot hslot
      have heq : slot = own := Fin.ext (by omega)
      rw [heq]
      exact hreturn
    · intro action haction hback
      have hused : (own.val : Int) < later.machine.sp := by
        rw [hown]
        exact habove actions List.prefix_rfl
      have hreturned := returned_of_back hlater haction hused (by omega)
      rw [hreturn, hown] at hreturned
      exact hreturned

/-- A subroutine at `0x204` calls another one at `0x208`; the host ticks and presses
a key in between. -/
theorem calls_return_nested :
    let e : Engine Cycle := (fresh .chip8 true true (.ofList [7])).after
      (.restart [0x22, 0x04, 0x12, 0x02, 0x22, 0x08, 0x00, 0xEE, 0x00, 0xEE])
    let actions : List HostAction := [.step, .tick, .writeKey 3 1, .step]
    let later := (e.after .step).afterAll actions
    e.machine.WellFormed ∧ e.machine.sp < 16 ∧
      (∃ op, e.machine.next = .opcode op ∧ op.family.val = 2) ∧
      (∀ action ∈ actions, ∀ program, action ≠ .restart program) ∧
      (∀ before, before <+: actions →
        e.machine.sp < ((e.after .step).afterAll before).machine.sp) ∧
      (later.after .step).machine.sp ≤ e.machine.sp ∧
      (later.after .step).machine.pc = e.machine.pc + 2 := by
  intro e actions later
  have hm : e.machine.WellFormed := by
    simp only [e]
    rw [after_restart _ (by decide)]
    exact .restarted _ _
  obtain ⟨hwaiting, hpc, hfamily, hroom, hfirst, hsecond, hthird, hfourth, hfifth, hback⟩ :
      e.machine.waiting = false ∧ e.machine.pc < 4095 ∧
        (e.machine.memory.opcode e.machine.pc).family.val = 2 ∧ e.machine.sp < 16 ∧
        e.machine.sp < (e.after .step).machine.sp ∧
        e.machine.sp < ((e.after .step).afterAll [.step]).machine.sp ∧
        e.machine.sp < ((e.after .step).afterAll [.step, .tick]).machine.sp ∧
        e.machine.sp < ((e.after .step).afterAll [.step, .tick, .writeKey 3 1]).machine.sp ∧
        e.machine.sp < later.machine.sp ∧ (later.after .step).machine.sp ≤ e.machine.sp := by
    decide +kernel
  have hnext : e.machine.next = .opcode (e.machine.memory.opcode e.machine.pc) :=
    Machine.next_in_memory hwaiting hm.pc_range.1 hpc
  have hrestart : ∀ action ∈ actions, ∀ program, action ≠ .restart program := by
    intro action haction program heq
    rw [heq] at haction
    simp [actions] at haction
  have habove : ∀ before, before <+: actions →
      e.machine.sp < ((e.after .step).afterAll before).machine.sp := by
    intro before hbefore
    simp only [actions, List.prefix_cons_iff, List.prefix_nil] at hbefore
    obtain rfl | ⟨_, rfl, rfl | ⟨_, rfl, rfl | ⟨_, rfl, rfl | ⟨_, rfl, rfl⟩⟩⟩⟩ := hbefore
    · exact hfirst
    · exact hsecond
    · exact hthird
    · exact hfourth
    · exact hfifth
  have hreturns := ((calls_return e hm).2.2.2 _ hnext hfamily hroom).2 actions hrestart habove
  exact ⟨hm, hroom, ⟨_, hnext, hfamily⟩, hrestart, habove, hback,
    (hreturns.2.2 .step nofun hback).2.2.2⟩

end Engine

end SuperChip
