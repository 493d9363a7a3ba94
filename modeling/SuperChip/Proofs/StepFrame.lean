import SuperChip.Proofs.Anomalies
import SuperChip.Proofs.Words

/-!
# What a step leaves alone

Each part of the machine is changed by a few opcodes only, and the program counter of
the next instruction is known from the machine before.  `Machine.StepFrame` says so part
by part, with the opcodes as the tables of opcodes list them, and `Opcode.successor` is
where a program goes on.

## Strategy

Instructions are gone through once: what one changes is read off its execution, and that
its opcode may change this is read off its word (`framed_execute`).  The same goes for
the program counter (`pc_execute`).  An opcode without an instruction changes nothing and
goes on behind itself.
-/

namespace SuperChip

/-! ## Which opcodes may change what -/

namespace Opcode

/-- An opcode of the last family, with a code behind its register. -/
def IsTransfer (op : Opcode) (code : Nat) : Prop :=
  op.family.val = 0xF ∧ op.kk.toNat = code

/-- The opcodes that have to do with the picture. -/
inductive Paints (variant : Variant) (op : Opcode) : Prop
  | clear (hop : op.toNat = 0x00E0)
  | draw (hfamily : op.family.val = 0xD)
  | scrollDown (hextended : variant = .schip) (hop : op.toNat / 16 = 0x00C)
  | extended (hextended : variant = .schip) (hop : op.toNat ∈ [0x00FB, 0x00FC, 0x00FE, 0x00FF])

/-- The opcodes that set the index register. -/
inductive SetsIndex (variant : Variant) (op : Opcode) : Prop
  | loaded (hfamily : op.family.val = 0xA)
  | computed (hop : op.IsTransfer 0x1E ∨ op.IsTransfer 0x29)
  | extended (hextended : variant = .schip) (hop : op.IsTransfer 0x30)

/-- The registers that an opcode may write. -/
inductive Writes (variant : Variant) (op : Opcode) (register : Fin 16) : Prop
  | first (hfamily : op.family.val ∈ [0x6, 0x7, 0x8, 0xC]) (hregister : register = op.x)
  | flag (hfamily : op.family.val ∈ [0x8, 0xD]) (hregister : register = Machine.flagRegister)
  | delay (hop : op.IsTransfer 0x07) (hregister : register = op.x)
  | loaded (hop : op.IsTransfer 0x65) (hregister : register ≤ op.x)
  | restored (hextended : variant = .schip) (hop : op.IsTransfer 0x85)
      (hregister : register.val ≤ min op.x.val 7)

theorem isTransfer_of_toNat {op : Opcode} {x : Fin 16} {code : Nat}
    (h : op.toNat = 0xF000 + x.val * 256 + code) (hcode : code < 256) :
    op.IsTransfer code ∧ op.x = x := by
  obtain ⟨hfamily, hx, hkk⟩ := parts_of_toNat 0xF h hcode
  exact ⟨⟨hfamily, hkk⟩, hx⟩

/-! ## Where a program goes on -/

/-- Whether the next instruction is passed over.  The extended set compares two registers
only if the last digit is zero, and a register beyond the keys is no key. -/
def skips (variant : Variant) (op : Opcode) (m : Machine) : Bool :=
  match op.family.val with
  | 0x3 => m.v.get op.x == op.kk
  | 0x4 => m.v.get op.x != op.kk
  | 0x5 => m.v.get op.x == m.v.get op.y && (variant == .chip8 || op.n == 0)
  | 0x9 => m.v.get op.x != m.v.get op.y && (variant == .chip8 || op.n == 0)
  | 0xE =>
    if key : (m.v.get op.x).toNat < 16 then
      let pressed := m.keys.get ⟨(m.v.get op.x).toNat, key⟩ != 0
      op.kk == 0x9E && pressed || op.kk == 0xA1 && !pressed
    else false
  | _ => false

/-- The address at which a machine goes on behind an opcode. -/
def successor (variant : Variant) (op : Opcode) (m : Machine) : Int :=
  match op.family.val with
  | 0x1 => op.nnn
  | 0x2 => op.nnn
  | 0xB => op.nnn + (m.v.get 0).toNat
  | _ =>
    if op.toNat = 0x00EE ∧ 0 < m.sp then m.stack[(m.sp - 1).toNat]?.getD 0
    else if op.skips variant m then m.pc + 4
    else m.pc + 2

variable {variant : Variant} {op : Opcode} {m : Machine}

/-- The families that neither jump nor skip go on, but for a return. -/
theorem successor_of_onward
    (hfamily : op.family.val ∈ [0x0, 0x6, 0x7, 0x8, 0xA, 0xC, 0xD, 0xF])
    (hreturn : ¬ (op.toNat = 0x00EE ∧ 0 < m.sp)) : op.successor variant m = m.pc + 2 := by
  simp only [List.mem_cons, List.not_mem_nil, or_false] at hfamily
  have hskips : op.skips variant m = false := by
    rcases hfamily with h | h | h | h | h | h | h | h
    all_goals simp only [skips, h]
  rcases hfamily with h | h | h | h | h | h | h | h
  all_goals simp only [successor, h, if_neg hreturn, hskips, Bool.false_eq_true, if_false]

/-- The families of skips go on two or four bytes further. -/
theorem successor_of_skip (hfamily : op.family.val ∈ [0x3, 0x4, 0x5, 0x9, 0xE]) :
    op.successor variant m = if op.skips variant m then m.pc + 4 else m.pc + 2 := by
  have hother : ¬ (op.toNat = 0x00EE ∧ 0 < m.sp) := by
    rintro ⟨hop, -⟩
    rw [toNat] at hop
    have hzero : op.family.val = 0x0 := by omega
    simp [hzero] at hfamily
  simp only [List.mem_cons, List.not_mem_nil, or_false] at hfamily
  rcases hfamily with h | h | h | h | h
  all_goals simp only [successor, h, if_neg hother]

theorem successor_of_return (hop : op.toNat = 0x00EE) {slot : Fin 16}
    (hslot : (slot.val : Int) + 1 = m.sp) : op.successor variant m = m.stack.get slot := by
  have hzero : op.family.val = 0x0 := by
    rw [toNat] at hop
    omega
  have hindex : (m.sp - 1).toNat = slot.val := by omega
  simp only [successor, hzero]
  rw [if_pos ⟨hop, by omega⟩, hindex, Vector.getElem?_eq_getElem slot.isLt]
  rfl

/-- An opcode without an instruction goes on behind itself. -/
theorem successor_of_undefined (h : op.UndefinedIn variant) :
    op.successor variant m = m.pc + 2 := by
  -- an unknown word neither jumps nor skips, whatever its family
  cases h with
  | display hfamily hcommon =>
      apply successor_of_onward (by simp [hfamily])
      rintro ⟨hop, -⟩
      have hnnn : op.nnn = op.toNat := by
        rw [nnn, toNat]
        omega
      simp [hnnn, hop] at hcommon
  | comparison hfamily hextended hdigit =>
      have hskips : op.skips variant m = false := by
        rcases hfamily with h | h
        all_goals simp [skips, h, hextended, hdigit]
      rw [successor_of_skip (by rcases hfamily with h | h <;> simp [h]), hskips]
      rfl
  | arithmetic hfamily =>
      apply successor_of_onward (by simp [hfamily])
      rintro ⟨hop, -⟩
      rw [toNat] at hop
      omega
  | key hfamily hcode =>
      have hskips : op.skips variant m = false := by
        have hpress : ¬ op.kk = 0x9E := by
          intro h
          simp [h] at hcode
        have hrelease : ¬ op.kk = 0xA1 := by
          intro h
          simp [h] at hcode
        simp [skips, hfamily, hpress, hrelease]
      rw [successor_of_skip (by simp [hfamily]), hskips]
      rfl
  | transfer hfamily =>
      apply successor_of_onward (by simp [hfamily])
      rintro ⟨hop, -⟩
      rw [toNat] at hop
      omega

end Opcode

theorem Instruction.eq_schip_of_definedIn {instruction : Instruction} {variant : Variant}
    (hdefined : instruction.definedIn variant = true)
    (hplain : instruction.definedIn .chip8 = false) : variant = .schip := by
  cases variant with
  | schip => rfl
  | chip8 =>
      rw [hplain] at hdefined
      cases hdefined

theorem Slots.get_ofFn {α : Type} {n : Nat} (f : Fin n → α) (slot : Fin n) :
    (Vector.ofFn f).get slot = f slot :=
  Vector.getElem_ofFn slot.isLt

theorem Effect.EndsIn.machine {P : Machine → Prop} {effect : Effect} (h : effect.EndsIn P) :
    P effect.machine := by
  cases effect with
  | completed m => exact h
  | anomalous anomaly m => exact h
  | faulted fault m => exact h.elim

namespace Machine

variable {variant : Variant} {op : Opcode} {m before after : Machine}

/-! ## What instructions change -/

theorem exists_draw_eq (m : Machine) (variant : Variant) (x y n : Fin 16) :
    ∃ v plane redraw, (m.draw variant x y n).machine =
      { m with v := v, plane := plane, redraw := redraw } := by
  obtain ⟨v, plane, hmachine, -⟩ := (m.setRegister flagRegister 0).exists_stamp_eq
    (m.v.get x).toNat (m.v.get y).toNat (spriteShape variant m.resolution n)
  unfold draw
  dsimp only
  cases heffect : (m.setRegister flagRegister 0).stamp (m.v.get x).toNat (m.v.get y).toNat
      (spriteShape variant m.resolution n) with
  | completed after =>
      rw [heffect] at hmachine
      obtain rfl : after = _ := hmachine
      exact ⟨v, plane, true, rfl⟩
  | anomalous anomaly after =>
      rw [heffect] at hmachine
      obtain rfl : after = _ := hmachine
      exact ⟨v, plane, true, rfl⟩
  | faulted fault after =>
      rw [heffect] at hmachine
      obtain rfl : after = _ := hmachine
      exact ⟨v, plane, m.redraw, rfl⟩

theorem get_loadedRegisters_of_lt (m : Machine) {x register : Fin 16} (h : x < register) :
    (m.loadedRegisters x).get register = m.v.get register := by
  rw [loadedRegisters, Slots.get_ofFn, if_neg (Fin.not_le.mpr h)]

theorem get_restoredRegisters_of_lt (m : Machine) {x register : Fin 16}
    (h : min x.val 7 < register.val) :
    (m.restoredRegisters x).get register = m.v.get register := by
  rw [restoredRegisters, Slots.get_ofFn]
  split
  · rw [if_neg (by rw [Fin.le_def]; omega)]
  · rfl

/-! ## Frames -/

/-- Of one machine and the next, what an opcode must leave alone, but for the program
counter. -/
structure Framed (variant : Variant) (op : Opcode) (before after : Machine) : Prop where
  memory : ¬ (op.IsTransfer 0x33 ∨ op.IsTransfer 0x55) → after.memory = before.memory
  sp : ¬ (op.family.val = 0x2 ∨ op.toNat = 0x00EE) → after.sp = before.sp
  stack : ∀ slot : Fin 16, ¬ (op.family.val = 0x2 ∧ (slot.val : Int) = before.sp) →
    after.stack.get slot = before.stack.get slot
  flags : ¬ (variant = .schip ∧ op.IsTransfer 0x75) → after.flags = before.flags
  delay : ¬ op.IsTransfer 0x15 → after.delay = before.delay
  sound : ¬ op.IsTransfer 0x18 → after.sound = before.sound
  picture : ¬ op.Paints variant → after.plane = before.plane ∧
    after.resolution = before.resolution ∧ after.redraw = before.redraw
  index : ¬ op.SetsIndex variant → after.i = before.i
  wait : ¬ op.IsTransfer 0x0A →
    after.waiting = before.waiting ∧ after.awaitedRegister = before.awaitedRegister
  keys : after.keys = before.keys
  beep : after.beep = before.beep
  registers : ∀ register, ¬ op.Writes variant register →
    after.v.get register = before.v.get register

/-- A step of a machine at an opcode. -/
structure StepFrame (variant : Variant) (op : Opcode) (before after : Machine) : Prop
    extends Framed variant op before after where
  pc : after.pc = op.successor variant before

namespace Framed

theorem refl (variant : Variant) (op : Opcode) (m : Machine) : Framed variant op m m where
  memory _ := rfl
  sp _ := rfl
  stack _ _ := rfl
  flags _ := rfl
  delay _ := rfl
  sound _ := rfl
  picture _ := ⟨rfl, rfl, rfl⟩
  index _ := rfl
  wait _ := ⟨rfl, rfl⟩
  keys := rfl
  beep := rfl
  registers _ _ := rfl

/-- A register is written that the opcode may write. -/
theorem setRegister {x : Fin 16} (hwrites : op.Writes variant x) (value : UInt8) :
    Framed variant op m (m.setRegister x value) :=
  { refl variant op m with
    registers := by
      intro register hleft
      have hother : x ≠ register := by
        rintro rfl
        exact hleft hwrites
      exact (Slots.get_put m.v x register value).trans (if_neg hother) }

/-- The opcode may paint. -/
theorem painted (hpaints : op.Paints variant) {plane : Plane} {resolution : Resolution}
    {redraw : Bool} : Framed variant op m { m with
      plane := plane, resolution := resolution, redraw := redraw } :=
  { refl variant op m with picture := fun hleft => absurd hpaints hleft }

theorem skipIf (condition : Bool) : Framed variant op m (m.skipIf condition) := by
  obtain ⟨pc, hpc⟩ := m.exists_skipIf_eq condition
  rw [hpc]
  exact { refl variant op m with }

theorem skipKey (whenPressed : Bool) (x : Fin 16) :
    Framed variant op m (m.skipKey whenPressed x).machine := by
  unfold Machine.skipKey
  split
  · exact skipIf _
  · exact refl variant op m

theorem readDelay (hop : op.IsTransfer 0x07) :
    Framed variant op m (m.readDelay op.x).machine := by
  unfold Machine.readDelay
  split
  · exact setRegister (.delay hop rfl) _
  · exact refl variant op m

theorem scrollDown (hpaints : op.Paints variant) (rows : Int) :
    Framed variant op m (m.scrollDown rows) := by
  unfold Machine.scrollDown
  split
  · exact refl variant op m
  · exact painted hpaints

theorem combine (hfamily : op.family.val = 0x8) (operation : Arithmetic) (y : Fin 16) :
    Framed variant op m (m.combine operation op.x y) := by
  obtain ⟨v, hv⟩ := m.exists_combine_eq operation op.x y
  have hget := m.get_combine operation op.x y
  rw [hv] at hget ⊢
  refine { refl variant op m with registers := ?_ }
  intro register hleft
  have hfirst : op.x ≠ register := by
    rintro rfl
    exact hleft (.first (by simp [hfamily]) rfl)
  have hflag : register ≠ flagRegister := by
    rintro rfl
    exact hleft (.flag (by simp [hfamily]) rfl)
  exact (hget register).trans ((if_neg hfirst).trans
    ((m.get_writeFlag operation op.x y register).trans (if_neg hflag)))

theorem call (hm : m.WellFormed) (hfamily : op.family.val = 0x2) (target : Nat) :
    Framed variant op m (m.call target).machine := by
  rcases hm.full_or_free with hfull | ⟨free, hfree⟩
  · rw [call_of_full target (Int.le_of_eq hfull.symm)]
    exact { refl variant op m with }
  · rw [call_of_room target hfree]
    refine { refl variant op m with sp := ?_, stack := ?_ }
    · intro hleft
      exact absurd (.inl hfamily) hleft
    · intro slot hleft
      have hother : free ≠ slot := by
        rintro rfl
        exact hleft ⟨hfamily, hfree⟩
      exact (Slots.get_put m.stack free slot m.pc).trans (if_neg hother)

theorem ret (hm : m.WellFormed) (hop : op.toNat = 0x00EE) :
    Framed variant op m m.ret.machine := by
  rcases hm.empty_or_used with hempty | ⟨slot, hslot⟩
  · rw [ret_of_empty hempty]
    exact refl variant op m
  · rw [ret_of_called hslot]
    exact { refl variant op m with sp := fun hleft => absurd (.inr hop) hleft }

theorem draw (hm : m.WellFormed) (hfamily : op.family.val = 0xD) (x y n : Fin 16) :
    Framed variant op m (m.draw variant x y n).machine := by
  have hpaints : op.Paints variant := .draw hfamily
  have hflag : op.Writes variant flagRegister := .flag (by simp [hfamily]) rfl
  obtain ⟨v, plane, redraw, hmachine⟩ := m.exists_draw_eq variant x y n
  have hdrawn := (draw_drawn hm variant x y n).machine
  rw [hmachine] at hdrawn ⊢
  refine { refl variant op m with
    picture := fun hleft => absurd hpaints hleft
    registers := ?_ }
  intro register hleft
  apply hdrawn.registers
  rintro rfl
  exact hleft hflag

theorem load (hop : op.IsTransfer 0x65) :
    Framed variant op m { m with v := m.loadedRegisters op.x } := by
  refine { refl variant op m with registers := ?_ }
  intro register hleft
  apply get_loadedRegisters_of_lt
  exact Fin.not_le.mp fun hle => hleft (.loaded hop hle)

theorem loadFlags (hextended : variant = .schip) (hop : op.IsTransfer 0x85) :
    Framed variant op m { m with v := m.restoredRegisters op.x } := by
  refine { refl variant op m with registers := ?_ }
  intro register hleft
  apply get_restoredRegisters_of_lt
  exact Nat.not_le.mp fun hle => hleft (.restored hextended hop hle)

end Framed

/-- Every instruction keeps to its frame. -/
theorem framed_execute (hm : m.WellFormed) {instruction : Instruction}
    (hdecode : Instruction.decodeIn variant op = some instruction) (number : Int) :
    Framed variant op m (m.execute variant number instruction).machine := by
  obtain ⟨hmeaning, hdefined⟩ := Option.filter_eq_some_iff.mp hdecode
  obtain ⟨hword, hwritable⟩ := Instruction.decode_eq_some_iff.mp hmeaning
  have hextended := fun hno => Instruction.eq_schip_of_definedIn hdefined hno
  have hrefl := Framed.refl variant op m
  -- each instruction writes its own parts of the machine, and its word has the form for them
  cases instruction with
  | clear => exact .painted (.clear hword)
  | ret => exact .ret hm hword
  | scrollDown rows =>
      have hrow : op.toNat / 16 = 0x00C := by
        simp only [hword, Instruction.word]
        omega
      exact .scrollDown (.scrollDown (hextended rfl) hrow) rows.val
  | scrollRight => exact .painted (.extended (hextended rfl) (by simp [hword, Instruction.word]))
  | scrollLeft => exact .painted (.extended (hextended rfl) (by simp [hword, Instruction.word]))
  | exit => exact hrefl
  | switchResolution resolution =>
      refine .painted (.extended (hextended rfl) ?_)
      cases resolution <;> simp [hword, Instruction.word]
  | jump target => exact { hrefl with }
  | call target => exact .call hm (Opcode.target_of_toNat 0x2 hword hwritable).1 target
  | skipImmediate whenEqual x kk => exact .skipIf _
  | skipRegister whenEqual x y n => exact .skipIf _
  | loadImmediate x kk =>
      obtain ⟨hfamily, rfl, -⟩ := Opcode.parts_of_toNat 0x6 hword kk.toNat_lt
      exact .setRegister (.first (by simp [hfamily]) rfl) _
  | addImmediate x kk =>
      obtain ⟨hfamily, rfl, -⟩ := Opcode.parts_of_toNat 0x7 hword kk.toNat_lt
      exact .setRegister (.first (by simp [hfamily]) rfl) _
  | combine operation x y =>
      obtain ⟨hfamily, rfl, -, -⟩ := Opcode.digits_of_toNat 0x8 hword
      exact .combine hfamily operation y
  | loadIndex target =>
      have hfamily := (Opcode.target_of_toNat 0xA hword hwritable).1
      exact { hrefl with index := fun hleft => absurd (.loaded hfamily) hleft }
  | jumpOffset target => exact { hrefl with }
  | random x kk =>
      obtain ⟨hfamily, rfl, -⟩ := Opcode.parts_of_toNat 0xC hword kk.toNat_lt
      exact .setRegister (.first (by simp [hfamily]) rfl) _
  | draw x y n => exact .draw hm (Opcode.digits_of_toNat 0xD hword).1 x y n
  | skipKey whenPressed x => exact .skipKey whenPressed x
  | readDelay x =>
      obtain ⟨hop, rfl⟩ := Opcode.isTransfer_of_toNat hword (by decide)
      exact .readDelay hop
  | awaitKey x =>
      have hop := (Opcode.isTransfer_of_toNat hword (by decide)).1
      exact { hrefl with wait := fun hleft => absurd hop hleft }
  | setDelay x =>
      have hop := (Opcode.isTransfer_of_toNat hword (by decide)).1
      exact { hrefl with delay := fun hleft => absurd hop hleft }
  | setSound x =>
      have hop := (Opcode.isTransfer_of_toNat hword (by decide)).1
      exact { hrefl with sound := fun hleft => absurd hop hleft }
  | addIndex x =>
      have hop := (Opcode.isTransfer_of_toNat hword (by decide)).1
      exact { hrefl with index := fun hleft => absurd (.computed (.inl hop)) hleft }
  | smallGlyph x =>
      have hop := (Opcode.isTransfer_of_toNat hword (by decide)).1
      exact { hrefl with index := fun hleft => absurd (.computed (.inr hop)) hleft }
  | bigGlyph x =>
      have hop := (Opcode.isTransfer_of_toNat hword (by decide)).1
      exact { hrefl with index := fun hleft => absurd (.extended (hextended rfl) hop) hleft }
  | decimal x =>
      have hop := (Opcode.isTransfer_of_toNat hword (by decide)).1
      exact { hrefl with memory := fun hleft => absurd (.inl hop) hleft }
  | store x =>
      have hop := (Opcode.isTransfer_of_toNat hword (by decide)).1
      exact { hrefl with memory := fun hleft => absurd (.inr hop) hleft }
  | load x =>
      obtain ⟨hop, rfl⟩ := Opcode.isTransfer_of_toNat hword (by decide)
      exact .load hop
  | saveFlags x =>
      have hop := (Opcode.isTransfer_of_toNat hword (by decide)).1
      exact { hrefl with flags := fun hleft => absurd ⟨hextended rfl, hop⟩ hleft }
  | loadFlags x =>
      obtain ⟨hop, rfl⟩ := Opcode.isTransfer_of_toNat hword (by decide)
      exact .loadFlags (hextended rfl) hop

/-! ## The program counter -/

/-- Instructions behind which a machine goes on, whatever it holds. -/
def goesOn : Instruction → Bool
  | .ret | .jump _ | .call _ | .jumpOffset _ => false
  | .skipImmediate _ _ _ | .skipRegister _ _ _ _ | .skipKey _ _ => false
  | _ => true

/-- Painting leaves the program counter alone, whatever is painted. -/
theorem pc_painted (m : Machine) (plane : Plane) (resolution : Resolution) (redraw : Bool) :
    { m with plane := plane, resolution := resolution, redraw := redraw }.pc = m.pc :=
  rfl

theorem pc_execute_of_goesOn {instruction : Instruction} (hgoes : goesOn instruction = true)
    (m : Machine) (number : Int) : (m.execute variant number instruction).machine.pc = m.pc := by
  cases instruction with
  | clear | scrollRight | scrollLeft | switchResolution => exact pc_painted m _ _ _
  | scrollDown rows =>
      show (m.scrollDown rows.val).pc = m.pc
      unfold scrollDown
      split
      · rfl
      · exact pc_painted m _ _ _
  | combine operation x y =>
      obtain ⟨v, hv⟩ := m.exists_combine_eq operation x y
      show (m.combine operation x y).pc = m.pc
      rw [hv]
  | draw x y n =>
      obtain ⟨v, plane, redraw, hmachine⟩ := m.exists_draw_eq variant x y n
      show (m.draw variant x y n).machine.pc = m.pc
      rw [hmachine]
  | readDelay x =>
      simp only [execute, readDelay]
      split
      · rfl
      · rfl
  | ret | jump | call | jumpOffset | skipImmediate | skipRegister | skipKey => cases hgoes
  | _ => simp only [execute, Effect.machine, setRegister]

theorem successor_of_goesOn {instruction : Instruction} (hgoes : goesOn instruction = true)
    (hdecode : Instruction.decode op = some instruction) :
    op.successor variant m = m.pc + 2 := by
  obtain ⟨hword, hwritable⟩ := Instruction.decode_eq_some_iff.mp hdecode
  apply Opcode.successor_of_onward
  · have hfamily : op.family.val = instruction.word / 4096 := by
      rw [← hword, Opcode.toNat]
      omega
    cases instruction with
    | ret | jump | call | jumpOffset | skipImmediate | skipRegister | skipKey => cases hgoes
    | loadIndex target =>
        simp [(Opcode.target_of_toNat 0xA hword hwritable).1]
    | loadImmediate x kk => simp [(Opcode.parts_of_toNat 0x6 hword kk.toNat_lt).1]
    | addImmediate x kk => simp [(Opcode.parts_of_toNat 0x7 hword kk.toNat_lt).1]
    | random x kk => simp [(Opcode.parts_of_toNat 0xC hword kk.toNat_lt).1]
    | combine operation x y => simp [(Opcode.digits_of_toNat 0x8 hword).1]
    | draw x y n => simp [(Opcode.digits_of_toNat 0xD hword).1]
    | readDelay x | awaitKey x | setDelay x | setSound x | addIndex x | smallGlyph x | bigGlyph x
    | decimal x | store x | load x | saveFlags x | loadFlags x =>
        simp [(Opcode.parts_of_toNat 0xF hword (by decide)).1]
    | clear | exit | scrollRight | scrollLeft => simp [hfamily, Instruction.word]
    | scrollDown rows =>
        have hzero : op.family.val = 0x0 := by
          rw [hfamily]
          simp only [Instruction.word]
          omega
        simp [hzero]
    | switchResolution resolution => cases resolution <;> simp [hfamily, Instruction.word]
  -- the one word of family zero that jumps is the return
  · rintro ⟨hop, -⟩
    have hreturn := Instruction.decode_of_toNat_eq_00EE hop
    rw [hdecode] at hreturn
    cases hreturn
    cases hgoes

/-- A skip on the condition of its opcode goes on where the opcode says. -/
theorem pc_skipIf (hfamily : op.family.val ∈ [0x3, 0x4, 0x5, 0x9, 0xE]) {condition : Bool}
    (hcondition : condition = op.skips variant m) :
    (m.fetched.skipIf condition).pc = op.successor variant m := by
  rw [Opcode.successor_of_skip hfamily, ← hcondition]
  unfold skipIf fetched
  split
  · show m.pc + 2 + 2 = m.pc + 4
    omega
  · rfl

theorem pc_skipImmediate {whenEqual : Bool} {x : Fin 16} {kk : UInt8}
    (hword : op.toNat = (Instruction.skipImmediate whenEqual x kk).word) :
    (m.fetched.skipIf ((m.fetched.v.get x == kk) == whenEqual)).pc = op.successor variant m := by
  cases whenEqual with
  | true =>
      obtain ⟨hfamily, rfl, hkk⟩ := Opcode.parts_of_toNat 0x3 hword kk.toNat_lt
      obtain rfl := UInt8.toNat_inj.mp hkk
      exact pc_skipIf (by simp [hfamily]) (by simp [Opcode.skips, hfamily, fetched])
  | false =>
      obtain ⟨hfamily, rfl, hkk⟩ := Opcode.parts_of_toNat 0x4 hword kk.toNat_lt
      obtain rfl := UInt8.toNat_inj.mp hkk
      exact pc_skipIf (by simp [hfamily]) (by simp [Opcode.skips, hfamily, fetched, bne])

theorem pc_skipRegister {whenEqual : Bool} {x y n : Fin 16}
    (hword : op.toNat = (Instruction.skipRegister whenEqual x y n).word)
    (hdefined : (Instruction.skipRegister whenEqual x y n).definedIn variant = true) :
    (m.fetched.skipIf ((m.fetched.v.get x == m.fetched.v.get y) == whenEqual)).pc =
      op.successor variant m := by
  have hdigit : (variant == .chip8 || n == 0) = true := by
    cases variant with
    | chip8 => rfl
    | schip => exact hdefined
  cases whenEqual with
  | true =>
      obtain ⟨hfamily, rfl, rfl, rfl⟩ := Opcode.digits_of_toNat 0x5 hword
      exact pc_skipIf (by simp [hfamily]) (by simp [Opcode.skips, hfamily, hdigit, fetched])
  | false =>
      obtain ⟨hfamily, rfl, rfl, rfl⟩ := Opcode.digits_of_toNat 0x9 hword
      exact pc_skipIf (by simp [hfamily]) (by simp [Opcode.skips, hfamily, hdigit, fetched, bne])

theorem pc_skipKey {whenPressed : Bool} {x : Fin 16}
    (hword : op.toNat = (Instruction.skipKey whenPressed x).word) :
    (m.fetched.skipKey whenPressed x).machine.pc = op.successor variant m := by
  obtain ⟨hfamily, rfl, hkk⟩ : op.family.val = 0xE ∧ op.x = x ∧
      op.kk = if whenPressed = true then 0x9E else 0xA1 := by
    cases whenPressed with
    | true =>
        obtain ⟨hfamily, hx, hkk⟩ := Opcode.parts_of_toNat 0xE hword (by decide)
        exact ⟨hfamily, hx, UInt8.toNat_inj.mp hkk⟩
    | false =>
        obtain ⟨hfamily, hx, hkk⟩ := Opcode.parts_of_toNat 0xE hword (by decide)
        exact ⟨hfamily, hx, UInt8.toNat_inj.mp hkk⟩
  unfold skipKey
  by_cases hkey : (m.v.get op.x).toNat < 16
  · rw [dif_pos (show (m.fetched.v.get op.x).toNat < 16 from hkey)]
    apply pc_skipIf (by simp [hfamily])
    cases whenPressed with
    | true => simp [Opcode.skips, hfamily, hkey, hkk, fetched]
    | false => simp [Opcode.skips, hfamily, hkey, hkk, fetched]
  · rw [dif_neg (show ¬ (m.fetched.v.get op.x).toNat < 16 from hkey),
      Opcode.successor_of_skip (by simp [hfamily])]
    simp [Opcode.skips, hfamily, hkey]
    rfl

theorem pc_call (hm : m.WellFormed) (target : Nat) :
    (m.fetched.call target).machine.pc = target := by
  rcases hm.full_or_free with hfull | ⟨free, hfree⟩
  · rw [call_of_full (m := m.fetched) target (Int.le_of_eq hfull.symm)]
    rfl
  · rw [call_of_room (m := m.fetched) target hfree]
    rfl

theorem pc_ret (hm : m.WellFormed) (hop : op.toNat = 0x00EE) :
    m.fetched.ret.machine.pc = op.successor variant m := by
  rcases hm.empty_or_used with hempty | ⟨slot, hslot⟩
  · have hfamily : op.family.val = 0x0 := by
      rw [Opcode.toNat] at hop
      omega
    rw [ret_of_empty (m := m.fetched) hempty,
      Opcode.successor_of_onward (by simp [hfamily]) (by omega)]
    rfl
  · rw [ret_of_called (m := m.fetched) hslot, Opcode.successor_of_return hop hslot]
    rfl

/-- Behind each instruction a machine goes on where its opcode says. -/
theorem pc_execute (hm : m.WellFormed) {instruction : Instruction}
    (hdecode : Instruction.decodeIn variant op = some instruction) (number : Int) :
    (m.fetched.execute variant number instruction).machine.pc = op.successor variant m := by
  obtain ⟨hmeaning, hdefined⟩ := Option.filter_eq_some_iff.mp hdecode
  obtain ⟨hword, hwritable⟩ := Instruction.decode_eq_some_iff.mp hmeaning
  -- what goes on behind itself is settled at once; seven instructions are left
  cases hgoes : goesOn instruction with
  | true => exact (pc_execute_of_goesOn hgoes _ _).trans (successor_of_goesOn hgoes hmeaning).symm
  | false =>
      cases instruction with
      | ret => exact pc_ret hm hword
      | jump target =>
          obtain ⟨hfamily, hnnn⟩ := Opcode.target_of_toNat 0x1 hword hwritable
          simp only [Opcode.successor, hfamily, hnnn]
          rfl
      | call target =>
          obtain ⟨hfamily, hnnn⟩ := Opcode.target_of_toNat 0x2 hword hwritable
          simp only [Opcode.successor, hfamily, hnnn]
          exact pc_call hm target
      | jumpOffset target =>
          obtain ⟨hfamily, hnnn⟩ := Opcode.target_of_toNat 0xB hword hwritable
          simp only [Opcode.successor, hfamily, hnnn]
          rfl
      | skipImmediate whenEqual x kk => exact pc_skipImmediate hword
      | skipRegister whenEqual x y n => exact pc_skipRegister hword hdefined
      | skipKey whenPressed x => exact pc_skipKey hword
      | _ => cases hgoes

/-! ## Steps -/

variable {ρ : Type} [Generator ρ]

theorem stepFrame_of_fetches (hm : m.WellFormed) (hop : m.Fetches op) (random : ρ) :
    StepFrame variant op m (m.step variant random).1.machine := by
  have hnext := hm.fetches_iff.mp hop
  cases hdecode : Instruction.decodeIn variant op with
  | none =>
      have hundefined := (Instruction.decodeIn_eq_none_iff variant op).mp hdecode
      rw [step_of_opcode variant random hnext, perform_of_undefined variant random hdecode]
      exact { Framed.refl variant op m with pc := (Opcode.successor_of_undefined hundefined).symm }
  | some instruction =>
      obtain ⟨number, hmachine⟩ := exists_step_eq_execute variant random hnext hdecode
      have hframed := framed_execute (hm.fetched hop.pc_lt) hdecode number
      rw [hmachine]
      -- behind the fetch only the program counter is another one
      exact { hframed with pc := pc_execute hm hdecode number }

end Machine

namespace Engine

variable {ρ : Type} [Generator ρ]

/-- **What a step leaves alone.**  A well-formed engine that fetches an opcode makes its
step, and each part of the machine keeps its value unless the opcode is one of the few
that may change this part: memory, the stack pointer and one slot of the stack, the
persistent flags, the timers, the picture, the index register, the wait for a key and
certain registers.  No opcode changes the keys or the signal of a beep.  The program goes
on at the successor of the opcode, which only the machine before decides. -/
theorem step_keeps_frame {e : Engine ρ} (hm : e.machine.WellFormed) {op : Opcode}
    (hop : e.machine.Fetches op) :
    step e = .ok () (e.after .step) ∧
      e.machine.StepFrame e.variant op (e.after .step).machine := by
  constructor
  · have hfault : e.fault? .step = none := by
      rw [fault_eq]
      exact (Machine.step_sound hm e.variant e.random).1
    exact Attempt.ok_of_fault?_eq_none hfault
  · rw [after_machine]
    exact Machine.stepFrame_of_fetches hm hop e.random

/-- Storing three registers moves neither the index register nor a register. -/
theorem step_keeps_frame_of_store :
    let m : Machine := { Machine.fresh with
      memory := Memory.zeroed.writeAll Memory.programStart [0xF2, 0x55], i := (0x300 : Nat) }
    let e : Engine Cycle := ⟨.schip, false, false, m, .ofList [7], #[]⟩
    e.machine.WellFormed ∧ e.machine.Fetches ⟨0xF, 2, 5, 5⟩ ∧
      step e = .ok () (e.after .step) ∧
      e.machine.StepFrame e.variant ⟨0xF, 2, 5, 5⟩ (e.after .step).machine ∧
      (e.after .step).machine.i = 0x300 ∧ (e.after .step).machine.pc = 0x202 := by
  intro m e
  have hm : m.WellFormed := {
    sp_range := by decide
    pc_range := by decide
    i_range := by decide
    stack_range := Machine.WellFormed.fresh.stack_range
    delay_range := by decide
    sound_range := by decide }
  have hop : m.Fetches ⟨0xF, 2, 5, 5⟩ := {
    awake := rfl
    pc_lt := by decide
    word_eq := by decide +kernel }
  obtain ⟨hstep, hframe⟩ := step_keeps_frame (e := e) hm hop
  have hindex : ¬ (⟨0xF, 2, 5, 5⟩ : Opcode).SetsIndex .schip := by
    rintro (hfamily | (⟨-, hcode⟩ | ⟨-, hcode⟩) | ⟨-, -, hcode⟩)
    · exact absurd hfamily (by decide)
    · exact absurd hcode (by decide)
    · exact absurd hcode (by decide)
    · exact absurd hcode (by decide)
  have hsuccessor : Opcode.successor .schip ⟨0xF, 2, 5, 5⟩ m = m.pc + 2 :=
    Opcode.successor_of_onward (by decide) (by decide)
  exact ⟨hm, hop, hstep, hframe, hframe.index hindex, hframe.pc.trans hsuccessor⟩

end Engine

end SuperChip
