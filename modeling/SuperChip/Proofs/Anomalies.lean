import SuperChip.Proofs.Drawing
import SuperChip.Proofs.OpcodeTable
import SuperChip.Proofs.Subroutines

/-!
# The anomalies of a step

A step meets at most one anomaly, and the machine goes on without what cannot be
done.  `Machine.Meets` lists the six anomalies, each with the state in which it is
met, with the report, and with all that the step changes then.  The list is read off
the words in memory: `Opcode.UndefinedIn` says which words a variant has no
instruction for.

## Strategy

An anomaly other than the two of the fetch comes from an instruction, and four
instructions have one each (`execute_eq_anomalous_iff`).  Each of the four has opcodes
of one form only, and both variants have all of them.  So the step of a machine that
meets an anomaly is known (`Meets.step_eq`), and a step that reports something has met
an anomaly of the list (`exists_meets_of_report`).  An engine adds nothing but its log.
-/

namespace SuperChip

namespace Instruction

/-! ## The opcodes of keys and sprites -/

theorem exists_decode_eq_skipKey {op : Opcode} (hfamily : op.family.val = 0xE)
    (hcode : op.kk.toNat = 0x9E ∨ op.kk.toNat = 0xA1) :
    ∃ whenPressed, decode op = some (.skipKey whenPressed op.x) := by
  rcases hcode with h | h
  · obtain ⟨hy, hn⟩ := Opcode.digits_of_kk h
    exact ⟨true, by simp [decode, decodeKey, hfamily, hy, hn]⟩
  · obtain ⟨hy, hn⟩ := Opcode.digits_of_kk h
    exact ⟨false, by simp [decode, decodeKey, hfamily, hy, hn]⟩

/-- What is known of an opcode that asks for a key or for a sprite. -/
def PeripheralForm (op : Opcode) : Instruction → Prop
  | skipKey whenPressed x =>
    op.family.val = 0xE ∧ x = op.x ∧ op.kk.toNat = if whenPressed = true then 0x9E else 0xA1
  | draw x y n => op.family.val = 0xD ∧ x = op.x ∧ y = op.y ∧ n = op.n
  | _ => True

theorem peripheralForm_of_decode {op : Opcode} {instruction : Instruction}
    (h : decode op = some instruction) : instruction.PeripheralForm op := by
  obtain ⟨hword, -⟩ := decode_eq_some_iff.mp h
  -- the operands of an instruction are digits of the opcode that asks for it
  cases instruction with
  | skipKey whenPressed x =>
      cases whenPressed with
      | true =>
          obtain ⟨hfamily, hx, hkk⟩ := Opcode.parts_of_toNat 0xE hword (by decide)
          exact ⟨hfamily, hx.symm, hkk⟩
      | false =>
          obtain ⟨hfamily, hx, hkk⟩ := Opcode.parts_of_toNat 0xE hword (by decide)
          exact ⟨hfamily, hx.symm, hkk⟩
  | draw x y n =>
      obtain ⟨hfamily, hx, hy, hn⟩ := Opcode.digits_of_toNat 0xD hword
      exact ⟨hfamily, hx.symm, hy.symm, hn.symm⟩
  | _ => trivial

end Instruction

namespace Machine

variable {variant : Variant} {m : Machine}

/-! ## The instructions that meet an anomaly -/

/-- The number of bytes of a sprite with a last digit. -/
def spriteBytes (variant : Variant) (resolution : Resolution) (n : Fin 16) : Nat :=
  if n = 0 ∧ resolution = .high then 32
  else if n = 0 ∧ variant = .schip then 16
  else n.val

theorem size_spriteShape_eq (variant : Variant) (resolution : Resolution) (n : Fin 16) :
    (spriteShape variant resolution n).size = spriteBytes variant resolution n := by
  unfold spriteShape spriteBytes
  split
  · rfl
  · split
    · rfl
    · exact Nat.one_mul n.val

/-- The instructions that a machine behind the fetch cannot execute, each with its anomaly
and with the machine that goes on without it. -/
inductive Hinders (variant : Variant) (m : Machine) : Instruction → Anomaly → Machine → Prop
  | ret (hempty : m.sp = 0) : Hinders variant m .ret .stackUnderflow m
  | call (target : Nat) (hfull : 16 ≤ m.sp) :
      Hinders variant m (.call target) .stackOverflow { m with pc := target }
  | skipKey (whenPressed : Bool) (x : Fin 16) (hkey : 16 ≤ (m.v.get x).toNat) :
      Hinders variant m (.skipKey whenPressed x) .badKey m
  | draw (x y n : Fin 16) (houtside : 4096 < m.i + spriteBytes variant m.resolution n) :
      Hinders variant m (.draw x y n) .spriteOverrun
        { m with v := Slots.put m.v flagRegister 0, redraw := true }

namespace Hinders

variable {instruction : Instruction} {anomaly : Anomaly} {after : Machine}

theorem execute_eq (h : Hinders variant m instruction anomaly after) (random : Int) :
    m.execute variant random instruction = .anomalous anomaly after := by
  cases h with
  | ret hempty => exact ret_of_empty hempty
  | call target hfull => exact call_of_full target hfull
  | skipKey whenPressed x hkey => exact dif_neg (Nat.not_lt.mpr hkey)
  | draw x y n houtside =>
      rw [← size_spriteShape_eq] at houtside
      exact draw_of_outside houtside x y

theorem drawsRandom_eq (h : Hinders variant m instruction anomaly after) :
    instruction.drawsRandom = false := by
  cases h <;> rfl

/-- Both variants have these instructions. -/
theorem definedIn_eq (h : Hinders variant m instruction anomaly after) (other : Variant) :
    instruction.definedIn other = true := by
  cases h <;> cases other <;> rfl

end Hinders

/-- A sprite in memory is drawn, or it cannot be read. -/
theorem outside_of_stamp_eq_anomalous {x y : Nat} {shape : SpriteShape} {anomaly : Anomaly}
    {after : Machine} (h : m.stamp x y shape = .anomalous anomaly after) :
    4096 < m.i + shape.size := by
  unfold stamp at h
  split at h
  · assumption
  · split at h
    · cases h
    · cases h

theorem outside_of_draw_eq_anomalous {x y n : Fin 16} {anomaly : Anomaly} {after : Machine}
    (h : m.draw variant x y n = .anomalous anomaly after) :
    4096 < m.i + (spriteShape variant m.resolution n).size := by
  unfold draw at h
  dsimp only at h
  cases heffect : (m.setRegister flagRegister 0).stamp (m.v.get x).toNat (m.v.get y).toNat
      (spriteShape variant m.resolution n) with
  | completed drawn =>
      rw [heffect] at h
      cases h
  | anomalous met before =>
      exact outside_of_stamp_eq_anomalous (m := m.setRegister flagRegister 0) heffect
  | faulted fault before =>
      rw [heffect] at h
      cases h

theorem hinders_of_execute {random : Int} {instruction : Instruction} {anomaly : Anomaly}
    {after : Machine} (h : m.execute variant random instruction = .anomalous anomaly after) :
    Hinders variant m instruction anomaly after := by
  -- the instructions that are named here have a branch that is not a plain completion
  cases instruction with
  | ret =>
      simp only [execute, ret] at h
      split at h
      · cases h
        exact .ret ‹_›
      · split at h
        · cases h
        · cases h
  | call target =>
      simp only [execute, call] at h
      split at h
      · cases h
        exact .call target ‹_›
      · split at h
        · cases h
        · cases h
  | skipKey whenPressed x =>
      simp only [execute, skipKey] at h
      split at h
      · cases h
      · cases h
        exact .skipKey whenPressed x (by omega)
  | draw x y n =>
      have houtside := outside_of_draw_eq_anomalous h
      rw [execute, draw_of_outside houtside] at h
      cases h
      rw [size_spriteShape_eq] at houtside
      exact .draw x y n houtside
  | readDelay x =>
      simp only [execute, readDelay] at h
      split at h
      · cases h
      · cases h
  | _ => cases h

/-- Four instructions meet an anomaly, each of its own kind. -/
theorem execute_eq_anomalous_iff {random : Int} {instruction : Instruction} {anomaly : Anomaly}
    {after : Machine} :
    m.execute variant random instruction = .anomalous anomaly after ↔
      Hinders variant m instruction anomaly after :=
  ⟨hinders_of_execute, fun h => h.execute_eq random⟩

/-! ## The anomalies of a machine -/

/-- A machine is about to execute an opcode, which is the big-endian word at its program
counter. -/
structure Fetches (m : Machine) (op : Opcode) : Prop where
  awake : m.waiting = false
  pc_lt : m.pc < 4095
  word_eq : op.toNat =
    (m.memory.read m.pc).toNat * 256 + (m.memory.read (m.pc + 1)).toNat

theorem WellFormed.fetches_iff (hm : m.WellFormed) {op : Opcode} :
    m.Fetches op ↔ m.next = .opcode op := by
  have hword : (m.memory.opcode m.pc).toNat =
      (m.memory.read m.pc).toNat * 256 + (m.memory.read (m.pc + 1)).toNat :=
    Opcode.toNat_ofBytes _ _
  constructor
  · rintro ⟨hawake, hpc, hop⟩
    rw [next_in_memory hawake hm.pc_range.1 hpc]
    rw [← hword] at hop
    rw [Opcode.eq_of_toNat_eq hop]
  -- a machine that waits fetches nothing, so this one is awake
  · intro hnext
    have hpc := pc_lt_of_next hnext
    cases hwaiting : m.waiting with
    | true =>
        rw [next_of_waiting hwaiting] at hnext
        cases hnext
    | false =>
        rw [next_in_memory hwaiting hm.pc_range.1 hpc] at hnext
        cases hnext
        exact ⟨hwaiting, hpc, hword⟩

/-- The anomalies that a machine of a variant meets in a step, with the report and with
the machine after it. -/
inductive Meets (variant : Variant) (m : Machine) : Report → Machine → Prop
  | pcOverrun (hawake : m.waiting = false) (hpc : 4095 ≤ m.pc) :
      Meets variant m ⟨.pcOverrun, m.pc, 0⟩ m
  | unknownOpcode {op : Opcode} (hop : m.Fetches op) (hundefined : op.UndefinedIn variant) :
      Meets variant m ⟨.unknownOpcode, m.pc + 2, op.toNat⟩ { m with pc := m.pc + 2 }
  | stackUnderflow {op : Opcode} (hop : m.Fetches op) (hform : op.toNat = 0x00EE)
      (hempty : m.sp = 0) :
      Meets variant m ⟨.stackUnderflow, m.pc + 2, op.toNat⟩ { m with pc := m.pc + 2 }
  | stackOverflow {op : Opcode} (hop : m.Fetches op) (hform : op.family.val = 0x2)
      (hfull : m.sp = 16) :
      Meets variant m ⟨.stackOverflow, m.pc + 2, op.toNat⟩ { m with pc := op.nnn }
  | badKey {op : Opcode} (hop : m.Fetches op) (hform : op.family.val = 0xE)
      (hcode : op.kk.toNat = 0x9E ∨ op.kk.toNat = 0xA1) (hkey : 16 ≤ (m.v.get op.x).toNat) :
      Meets variant m ⟨.badKey, m.pc + 2, op.toNat⟩ { m with pc := m.pc + 2 }
  | spriteOverrun {op : Opcode} (hop : m.Fetches op) (hform : op.family.val = 0xD)
      (houtside : 4096 < m.i + spriteBytes variant m.resolution op.n) :
      Meets variant m ⟨.spriteOverrun, m.pc + 2, op.toNat⟩
        { m with pc := m.pc + 2, v := Slots.put m.v flagRegister 0, redraw := true }

variable {report : Report} {after : Machine}

theorem Meets.awake (h : Meets variant m report after) : m.waiting = false := by
  cases h with
  | pcOverrun hawake => exact hawake
  | unknownOpcode hop => exact hop.awake
  | stackUnderflow hop => exact hop.awake
  | stackOverflow hop => exact hop.awake
  | badKey hop => exact hop.awake
  | spriteOverrun hop => exact hop.awake

variable {ρ : Type} [Generator ρ]

/-- The step of a machine that fetches an instruction which it cannot execute. -/
theorem step_of_hinders {op : Opcode} (hnext : m.next = .opcode op) {instruction : Instruction}
    (hdecode : Instruction.decode op = some instruction) {anomaly : Anomaly}
    (h : Hinders variant m.fetched instruction anomaly after) (random : ρ) :
    m.step variant random = (⟨after, some ⟨anomaly, m.pc + 2, op.toNat⟩, none⟩, random) := by
  have hdefined : Instruction.decodeIn variant op = some instruction := by
    rw [Instruction.decodeIn, hdecode, Option.filter_some, if_pos (h.definedIn_eq variant)]
  have hperform : m.fetched.perform variant random op = (.anomalous anomaly after, random) := by
    simp only [perform, hdefined, h.drawsRandom_eq, h.execute_eq, Bool.false_eq_true, if_false]
  rw [step_of_opcode variant random hnext, hperform]
  rfl

theorem Meets.step_eq (hm : m.WellFormed) (h : Meets variant m report after) (random : ρ) :
    m.step variant random = (⟨after, some report, none⟩, random) := by
  cases h with
  | pcOverrun hawake hpc => exact step_of_overrun variant random (next_at_end hawake hpc)
  | unknownOpcode hop hundefined =>
      have hdecode := (Instruction.decodeIn_eq_none_iff variant _).mpr hundefined
      rw [step_of_opcode variant random (hm.fetches_iff.mp hop),
        perform_of_undefined variant random hdecode]
      rfl
  | stackUnderflow hop hform hempty =>
      exact step_of_hinders (hm.fetches_iff.mp hop)
        (Instruction.decode_of_toNat_eq_00EE hform) (.ret hempty) random
  | stackOverflow hop hform hfull =>
      exact step_of_hinders (hm.fetches_iff.mp hop)
        (Instruction.decode_of_family_eq_two hform) (.call _ (Int.le_of_eq hfull.symm)) random
  | badKey hop hform hcode hkey =>
      obtain ⟨whenPressed, hdecode⟩ := Instruction.exists_decode_eq_skipKey hform hcode
      exact step_of_hinders (hm.fetches_iff.mp hop) hdecode (.skipKey whenPressed _ hkey) random
  | spriteOverrun hop hform houtside =>
      have hdecode := Instruction.decode_of_decodeIn (decodeIn_of_family_eq_thirteen variant hform)
      exact step_of_hinders (hm.fetches_iff.mp hop) hdecode (.draw _ _ _ houtside) random

/-- An instruction that a machine fetches and cannot execute belongs to an anomaly of the
list. -/
theorem exists_meets_of_hinders (hm : m.WellFormed) {op : Opcode} (hop : m.Fetches op)
    {instruction : Instruction} (hdecode : Instruction.decode op = some instruction)
    {anomaly : Anomaly} (h : Hinders variant m.fetched instruction anomaly after) :
    ∃ after, Meets variant m ⟨anomaly, m.pc + 2, op.toNat⟩ after := by
  have hcalls := Instruction.subroutineForm_of_decode hdecode
  have hperiphery := Instruction.peripheralForm_of_decode hdecode
  cases h with
  | ret hempty => exact ⟨_, .stackUnderflow hop hcalls hempty⟩
  | call target hfull =>
      have hsp : m.sp = 16 := Int.le_antisymm hm.sp_range.2 hfull
      exact ⟨_, .stackOverflow hop hcalls.1 hsp⟩
  | skipKey whenPressed x hkey =>
      obtain ⟨hfamily, rfl, hkk⟩ := hperiphery
      have hcode : op.kk.toNat = 0x9E ∨ op.kk.toNat = 0xA1 := by
        cases whenPressed with
        | true => exact .inl hkk
        | false => exact .inr hkk
      exact ⟨_, .badKey hop hfamily hcode hkey⟩
  | draw x y n houtside =>
      obtain ⟨hfamily, rfl, rfl, rfl⟩ := hperiphery
      exact ⟨_, .spriteOverrun hop hfamily houtside⟩

theorem exists_meets_of_report (hm : m.WellFormed) {random : ρ}
    (h : (m.step variant random).1.report = some report) :
    ∃ after, Meets variant m report after := by
  cases hnext : m.next with
  | await =>
      rw [step_of_await variant random hnext] at h
      cases h
  | unfetched fault =>
      rw [step_of_unfetched variant random hnext] at h
      cases h
  | overrun =>
      rw [step_of_overrun variant random hnext] at h
      cases h
      obtain ⟨hawake, hpc⟩ := at_end_of_next hnext
      exact ⟨m, .pcOverrun hawake hpc⟩
  | opcode op =>
      have hop := hm.fetches_iff.mpr hnext
      rw [step_of_opcode variant random hnext] at h
      cases hdecode : Instruction.decodeIn variant op with
      | none =>
          rw [perform_of_undefined variant random hdecode] at h
          cases h
          exact ⟨_, .unknownOpcode hop ((Instruction.decodeIn_eq_none_iff variant op).mp hdecode)⟩
      | some instruction =>
          obtain ⟨number, hperform⟩ :=
            exists_perform_eq_execute (m := m.fetched) variant random hdecode
          rw [hperform] at h
          cases heffect : m.fetched.execute variant number instruction with
          | completed after =>
              rw [heffect] at h
              cases h
          | faulted fault after =>
              rw [heffect] at h
              cases h
          | anomalous anomaly after =>
              rw [heffect] at h
              cases h
              exact exists_meets_of_hinders hm hop (Instruction.decode_of_decodeIn hdecode)
                (execute_eq_anomalous_iff.mp heffect)

end Machine

/-! ## The reports of an engine -/

namespace Engine

variable {ρ : Type} [Generator ρ]

theorem after_step_of_meets {e : Engine ρ} (hstrict : e.strict = true)
    (hlistening : e.listening = true) (hm : e.machine.WellFormed) {report : Report}
    {after : Machine} (h : e.machine.Meets e.variant report after) :
    e.after .step = { e with machine := after, reports := e.reports.push report } := by
  have houtcome : e.outcome .step = (⟨after, some report, none⟩, e.random) := h.step_eq hm e.random
  rw [after_eq, houtcome]
  simp only [settle, hear, hstrict, hlistening, Bool.and_self, if_true]

theorem reports_after_step_of_not_meets {e : Engine ρ} (hm : e.machine.WellFormed)
    (h : ∀ report after, ¬ e.machine.Meets e.variant report after) :
    (e.after .step).reports = e.reports := by
  rw [after_reports]
  cases hreport : (e.outcome .step).1.report with
  | none => rfl
  | some report =>
      obtain ⟨after, hmeets⟩ := Machine.exists_meets_of_report hm hreport
      exact absurd hmeets (h report after)

/-- **A step reports the anomaly that it meets and nothing else.**  A strict engine with
a listener goes on after each of the six anomalies: it reports the anomaly, with the
place where the program counter stood and with the word of the opcode, and changes
nothing but what the anomaly changes, not even the random source.  A step that meets
no anomaly reports nothing, and a machine that waits for a key meets none. -/
theorem step_reports_anomaly {e : Engine ρ} (hstrict : e.strict = true)
    (hlistening : e.listening = true) (hm : e.machine.WellFormed) :
    step e = .ok () (e.after .step) ∧
    (∀ report after, e.machine.Meets e.variant report after ↔
      e.after .step = { e with machine := after, reports := e.reports.push report }) ∧
    ((∀ report after, ¬ e.machine.Meets e.variant report after) →
      (e.after .step).reports = e.reports) ∧
    (e.machine.waiting = true → (e.after .step).reports = e.reports) := by
  have hsilent := reports_after_step_of_not_meets hm
  refine ⟨?_, ?_, hsilent, ?_⟩
  · have hfault : e.fault? .step = none := by
      rw [fault_eq]
      exact (Machine.step_sound hm e.variant e.random).1
    exact Attempt.ok_of_fault?_eq_none hfault
  · intro report after
    constructor
    · exact after_step_of_meets hstrict hlistening hm
    · intro hafter
      -- the step has met something, since the log has grown
      by_cases hmet : ∃ met machine, e.machine.Meets e.variant met machine
      · obtain ⟨met, machine, hmeets⟩ := hmet
        rw [after_step_of_meets hstrict hlistening hm hmeets] at hafter
        injection hafter with _ _ _ hmachine _ hreports
        obtain ⟨rfl, -⟩ := Array.push_eq_push.mp hreports
        rw [← hmachine]
        exact hmeets
      · have hsame := hsilent fun met machine hmeets => hmet ⟨met, machine, hmeets⟩
        rw [hafter] at hsame
        have hsize := congrArg Array.size hsame
        simp at hsize
  · intro hwaiting
    apply hsilent
    intro report after hmeets
    rw [hmeets.awake] at hwaiting
    cases hwaiting

/-- A sprite of fifteen rows that starts six bytes in front of the end of memory. -/
theorem step_reports_anomaly_of_sprite :
    let m : Machine := { Machine.fresh with
      memory := Memory.zeroed.writeAll Memory.programStart [0xD0, 0x0F], i := (0xFFA : Nat) }
    let e : Engine Cycle := ⟨.schip, true, true, m, .ofList [7], #[]⟩
    e.strict = true ∧ e.listening = true ∧ e.machine.WellFormed ∧
      e.machine.Meets e.variant ⟨.spriteOverrun, 0x202, 0xD00F⟩ (e.after .step).machine ∧
      (e.after .step).reports = #[⟨.spriteOverrun, 0x202, 0xD00F⟩] := by
  intro m e
  have hm : m.WellFormed := {
    sp_range := by decide
    pc_range := by decide
    i_range := by decide
    stack_range := Machine.WellFormed.fresh.stack_range
    delay_range := by decide
    sound_range := by decide }
  have hop : m.memory.opcode m.pc = ⟨0xD, 0, 0, 0xF⟩ := by decide +kernel
  have hnext : m.next = .opcode ⟨0xD, 0, 0, 0xF⟩ := by
    rw [← hop]
    exact Machine.next_in_memory rfl (by decide) (by decide)
  have hmeets : m.Meets .schip ⟨.spriteOverrun, 0x202, 0xD00F⟩ _ :=
    .spriteOverrun (hm.fetches_iff.mpr hnext) rfl (by decide)
  obtain ⟨-, hreports, -, -⟩ := step_reports_anomaly (e := e) rfl rfl hm
  have hafter := (hreports _ _).mp hmeets
  refine ⟨rfl, rfl, hm, ?_, ?_⟩
  · rw [hafter]
    exact hmeets
  · rw [hafter]
    rfl

end Engine

end SuperChip
