import SuperChip.Proofs.StampedPixels
import SuperChip.Proofs.WellFormed

/-!
# What drawing does to the machine

A sprite is drawn pixel by pixel, and a collision is found on the way.  Seen from
the machine before, there is no way to speak of: the pixels that the sprite covers
are toggled, all others stay, and the flag register says whether one of the covered
pixels was lit.  The position is read before the flag register is cleared, so the
flag register may hold a coordinate.  A sprite that does not lie in memory is not
drawn at all.

Which pixels a sprite covers is said in `Proofs/StampedPixels.lean`; here
`stamp_of_inside` and `stamp_of_outside` tell the two cases apart, and `Drawn` is
what they have in common.
-/

namespace SuperChip.Machine

/-! ## Shapes -/

/-- A sprite that fits on the small rectangle fits on both. -/
theorem fitsOn_of_low {shape : SpriteShape} (h : shape.FitsOn .low) (resolution : Resolution) :
    shape.FitsOn resolution := by
  obtain ⟨hpos, hcolumns, hrows⟩ := h
  cases resolution with
  | low => exact ⟨hpos, hcolumns, hrows⟩
  | high => exact ⟨hpos, Nat.le_trans hcolumns (by decide), Nat.le_trans hrows (by decide)⟩

theorem fitsOn_spriteShape (variant : Variant) (resolution : Resolution) (n : Fin 16) :
    (spriteShape variant resolution n).FitsOn resolution := by
  unfold spriteShape
  split
  · rename_i hlarge
    rw [hlarge.2]
    constructor <;> decide
  · split
    · exact fitsOn_of_low ⟨by decide, by decide, by decide⟩ resolution
    · have hlow : SpriteShape.FitsOn ⟨1, n.val⟩ .low :=
        ⟨Nat.one_pos, show 8 ≤ 64 by decide, show n.val ≤ 32 by omega⟩
      exact fitsOn_of_low hlow resolution

/-- The columns and rows of a sprite with a last digit. -/
theorem size_spriteShape (variant : Variant) (resolution : Resolution) (n : Fin 16) :
    let shape := spriteShape variant resolution n
    (shape.columns, shape.rows) =
      if n = 0 ∧ resolution = .high then (16, 16)
      else if n = 0 ∧ variant = .schip then (8, 16) else (8, n.val) := by
  intro shape
  simp only [shape, spriteShape]
  split
  · rfl
  · split <;> rfl

/-! ## Sprites inside memory and beyond -/

variable {m : Machine}

/-- The machine after a sprite that lies in memory is drawn. -/
def stamped (m : Machine) (x y : Nat) (shape : SpriteShape) : Machine :=
  let drawn := m.plane.stamp m.resolution x y shape.rowBytes (m.memory.readAll m.i shape.size)
  if drawn.2 then { m with plane := drawn.1 }.setRegister flagRegister 1
  else { m with plane := drawn.1 }

theorem stamp_of_inside (hlow : 0 ≤ m.i) {shape : SpriteShape} (hinside : m.i + shape.size ≤ 4096)
    (x y : Nat) : m.stamp x y shape = .completed (m.stamped x y shape) := by
  have hfits : ¬ (Memory.size : Int) < m.i + shape.size := by
    simp only [Memory.size]
    omega
  rw [stamp, if_neg hfits, m.memory.readIndices_eq_readAll shape.size (by omega) hinside]
  rfl

theorem stamp_of_outside {shape : SpriteShape} (houtside : 4096 < m.i + shape.size) (x y : Nat) :
    m.stamp x y shape = .anomalous .spriteOverrun m := by
  have hbeyond : (Memory.size : Int) < m.i + shape.size := by
    simp only [Memory.size]
    omega
  rw [stamp, if_pos hbeyond]

theorem draw_of_outside {variant : Variant} {n : Fin 16}
    (houtside : 4096 < m.i + (spriteShape variant m.resolution n).size) (x y : Fin 16) :
    m.draw variant x y n =
      .anomalous .spriteOverrun { m.setRegister flagRegister 0 with redraw := true } := by
  simp only [draw, stamp_of_outside (m := m.setRegister flagRegister 0) houtside, signalRedraw]

theorem plane_stamped (x y : Nat) (shape : SpriteShape) :
    (m.stamped x y shape).plane =
      (m.plane.stamp m.resolution x y shape.rowBytes (m.memory.readAll m.i shape.size)).1 := by
  unfold stamped
  dsimp only
  split <;> rfl

theorem get_stamped (x y : Nat) (shape : SpriteShape) (register : Fin 16) :
    (m.stamped x y shape).v.get register =
      if (m.plane.stamp m.resolution x y shape.rowBytes
          (m.memory.readAll m.i shape.size)).2 = true ∧ register = flagRegister then 1
      else m.v.get register := by
  unfold stamped
  dsimp only
  split
  · rename_i hhit
    simp only [setRegister, Slots.get_put, hhit, true_and, eq_comm]
  · rename_i hmiss
    rw [if_neg (fun h => hmiss h.1)]

/-! ## What is drawn -/

/-- The sprite that is drawn at the position in two registers has a bit that is set on
a pixel. -/
def Covers (m : Machine) (variant : Variant) (x y n : Fin 16) (column line : Nat) : Prop :=
  Plane.Covers m.resolution (spriteShape variant m.resolution n) m.memory m.i
    (m.v.get x).toNat (m.v.get y).toNat column line

instance (m : Machine) (variant : Variant) (x y n : Fin 16) (column line : Nat) :
    Decidable (m.Covers variant x y n column line) :=
  inferInstanceAs (Decidable (Plane.Covers _ _ _ _ _ _ _ _))

/-- What drawing a sprite makes of a machine. -/
structure Drawn (m : Machine) (variant : Variant) (x y n : Fin 16) (after : Machine) : Prop where
  redraw : after.redraw = true
  registers : ∀ register, register ≠ flagRegister → after.v.get register = m.v.get register
  /-- The margin is not covered, so it stays as it is. -/
  pixels : m.i + (spriteShape variant m.resolution n).size ≤ 4096 →
    ∀ column line, column < Plane.stride → line < 64 →
      after.plane.pixel column line =
        if m.Covers variant x y n column line then m.plane.pixel column line ^^^ 1
        else m.plane.pixel column line
  collision : m.i + (spriteShape variant m.resolution n).size ≤ 4096 →
    (∃ column line, m.Covers variant x y n column line ∧ m.plane.pixel column line ≠ 0) →
      after.v.get flagRegister = 1
  noCollision : m.i + (spriteShape variant m.resolution n).size ≤ 4096 →
    (∀ column line, m.Covers variant x y n column line → m.plane.pixel column line = 0) →
      after.v.get flagRegister = 0
  overrun : 4096 < m.i + (spriteShape variant m.resolution n).size →
    after.plane = m.plane ∧ after.v.get flagRegister = 0

/-- Inside memory the sprite is drawn on a machine whose flag register is cleared. -/
theorem drawn_of_inside (hlow : 0 ≤ m.i) {variant : Variant} {n : Fin 16}
    (hinside : m.i + (spriteShape variant m.resolution n).size ≤ 4096) (x y : Fin 16) :
    (m.draw variant x y n).EndsIn (m.Drawn variant x y n) := by
  have hfits := fitsOn_spriteShape variant m.resolution n
  have hstamp := stamp_of_inside (m := m.setRegister flagRegister 0) hlow hinside
    (m.v.get x).toNat (m.v.get y).toNat
  have hhit := m.plane.snd_stamp m.memory m.i (m.v.get x).toNat (m.v.get y).toNat hfits
  have hregister := get_stamped (m := m.setRegister flagRegister 0) (m.v.get x).toNat
    (m.v.get y).toNat (spriteShape variant m.resolution n)
  -- the flag is cleared first, and set again by a collision only
  have hcleared : ∀ register, (m.setRegister flagRegister 0).v.get register =
      if flagRegister = register then 0 else m.v.get register :=
    fun register => Slots.get_put m.v flagRegister register 0
  simp only [draw, hstamp, signalRedraw, Effect.EndsIn]
  refine {
    redraw := rfl
    registers := ?_
    pixels := ?_
    collision := ?_
    noCollision := ?_
    overrun := fun houtside => absurd houtside (by omega) }
  · intro register hother
    rw [hregister, if_neg (fun h => hother h.2), hcleared, if_neg (Ne.symm hother)]
  · intro _ column line hcolumn _
    simp only [plane_stamped]
    exact m.plane.pixel_stamp m.memory m.i _ _ hfits hcolumn
  · intro _ hcollision
    rw [hregister, if_pos ⟨hhit.mpr hcollision, rfl⟩]
  · intro _ hdark
    have hmiss : ¬ (∃ column line, m.Covers variant x y n column line ∧
        m.plane.pixel column line ≠ 0) := by
      rintro ⟨column, line, hcovers, hlit⟩
      exact hlit (hdark column line hcovers)
    rw [hregister, if_neg (fun h => hmiss (hhit.mp h.1)), hcleared, if_pos rfl]

theorem drawn_of_outside {variant : Variant} {n : Fin 16}
    (houtside : 4096 < m.i + (spriteShape variant m.resolution n).size) (x y : Fin 16) :
    (m.draw variant x y n).EndsIn (m.Drawn variant x y n) := by
  have hcleared : ∀ register, (m.setRegister flagRegister 0).v.get register =
      if flagRegister = register then 0 else m.v.get register :=
    fun register => Slots.get_put m.v flagRegister register 0
  rw [draw_of_outside houtside]
  exact {
    redraw := rfl
    registers := fun register hother => by rw [hcleared, if_neg (Ne.symm hother)]
    pixels := fun hinside => absurd hinside (by omega)
    collision := fun hinside => absurd hinside (by omega)
    noCollision := fun hinside => absurd hinside (by omega)
    overrun := fun _ => ⟨rfl, by rw [hcleared, if_pos rfl]⟩ }

theorem draw_drawn (hm : m.WellFormed) (variant : Variant) (x y n : Fin 16) :
    (m.draw variant x y n).EndsIn (m.Drawn variant x y n) := by
  by_cases hinside : m.i + (spriteShape variant m.resolution n).size ≤ 4096
  · exact drawn_of_inside hm.i_range.1 hinside x y
  · exact drawn_of_outside (by omega) x y

/-! ## The opcodes that draw -/

variable {ρ : Type} [Generator ρ]

theorem decodeIn_of_family_eq_thirteen (variant : Variant) {op : Opcode}
    (hfamily : op.family.val = 0xD) :
    Instruction.decodeIn variant op = some (.draw op.x op.y op.n) := by
  have hdecode : Instruction.decode op = some (.draw op.x op.y op.n) := by
    simp [Instruction.decode, hfamily]
  rw [Instruction.decodeIn, hdecode]
  cases variant <;> rfl

theorem perform_of_family_eq_thirteen (m : Machine) (variant : Variant) (random : ρ) {op : Opcode}
    (hfamily : op.family.val = 0xD) :
    (m.perform variant random op).1 = m.draw variant op.x op.y op.n := by
  obtain ⟨number, hperform⟩ := exists_perform_eq_execute (m := m) variant random
    (decodeIn_of_family_eq_thirteen variant hfamily)
  exact hperform

/-- **Drawing toggles the pixels that the sprite covers.**  An opcode `Dxyn` draws a
sprite of sixteen columns and rows, of eight columns and sixteen rows, or of eight
columns and `n` rows, at the position that the two registers held before.  A pixel is
covered if the bit at its distance from the position is set, where both axes of the
active rectangle are rings; the covered pixels are toggled, the others stay, and the
flag is one if a covered pixel was lit and zero if not.  A sprite that reaches beyond
memory leaves the plane alone and the flag at zero.  Either way the picture counts as
changed, and no other register changes.  It is the same for an opcode that a step has
fetched, and the step has no fault. -/
theorem draw_toggles_covered (hm : m.WellFormed) (variant : Variant) (random : ρ) {op : Opcode}
    (hfamily : op.family.val = 0xD) :
    let shape := spriteShape variant m.resolution op.n
    ((shape.columns, shape.rows) =
      if op.n = 0 ∧ m.resolution = .high then (16, 16)
      else if op.n = 0 ∧ variant = .schip then (8, 16) else (8, op.n.val)) ∧
    (m.perform variant random op).1.EndsIn (m.Drawn variant op.x op.y op.n) ∧
    (m.next = .opcode op → (m.step variant random).1.fault = none ∧
      m.Drawn variant op.x op.y op.n (m.step variant random).1.machine) := by
  refine ⟨size_spriteShape variant m.resolution op.n, ?_, ?_⟩
  · rw [perform_of_family_eq_thirteen m variant random hfamily]
    exact draw_drawn hm variant op.x op.y op.n
  · intro hnext
    rw [step_of_opcode variant random hnext, perform_of_family_eq_thirteen _ variant random hfamily]
    have hfetched := draw_drawn (hm.fetched (pc_lt_of_next hnext)) variant op.x op.y op.n
    obtain ⟨hfault, hdrawn⟩ := hfetched.outcome m.fetched.pc op.toNat
    -- behind the fetch only the program counter is another one
    exact ⟨hfault, { hdrawn with }⟩

/-- The glyph of zero at column 62 and row 30 of the small rectangle: it comes in again
on the left and at the top, and meets the one pixel that was lit.  The column stands in
the flag register. -/
theorem draw_toggles_covered_across_edges :
    ∃ m : Machine, m.WellFormed ∧ m.next = .opcode ⟨0xD, 0xF, 0, 5⟩ ∧
      m.i + (spriteShape .schip m.resolution 5).size ≤ 4096 ∧
      let after := (m.step .schip (Cycle.ofList [0])).1.machine
      m.Drawn .schip 0xF 0 5 after ∧ after.v.get flagRegister = 1 ∧
        m.plane.pixel 62 30 = 1 ∧ after.plane.pixel 62 30 = 0 ∧
        m.plane.pixel 1 0 = 0 ∧ after.plane.pixel 1 0 = 1 := by
  let m : Machine := { Machine.fresh with
    memory := Memory.zeroed.writeAll Memory.programStart [0xDF, 0x05, 0xF0, 0x90, 0x90, 0x90, 0xF0]
    i := (0x202 : Nat)
    v := Slots.put (Slots.put (Vector.replicate 16 0) flagRegister 62) 0 30
    plane := (Plane.blank.toggle (30 * Plane.stride + 62)).1 }
  have hm : m.WellFormed := {
    sp_range := by decide
    pc_range := by decide
    i_range := by decide
    stack_range := WellFormed.fresh.stack_range
    delay_range := by decide
    sound_range := by decide }
  obtain ⟨hop, hinside, hcorner, hlit, hcovers, hdark⟩ :
      m.memory.opcode m.pc = ⟨0xD, 0xF, 0, 5⟩ ∧
        m.i + (spriteShape .schip m.resolution 5).size ≤ 4096 ∧
        m.Covers .schip 0xF 0 5 62 30 ∧ m.plane.pixel 62 30 = 1 ∧
        m.Covers .schip 0xF 0 5 1 0 ∧ m.plane.pixel 1 0 = 0 := by
    decide +kernel
  have hnext : m.next = .opcode ⟨0xD, 0xF, 0, 5⟩ := by
    rw [← hop]
    exact next_in_memory rfl (by decide) (by decide)
  have hfamily : (⟨0xD, 0xF, 0, 5⟩ : Opcode).family.val = 0xD := rfl
  obtain ⟨-, -, hstep⟩ := draw_toggles_covered hm .schip (Cycle.ofList [0]) hfamily
  obtain ⟨-, hdrawn⟩ := hstep hnext
  refine ⟨m, hm, hnext, hinside, hdrawn, ?_, hlit, ?_, hdark, ?_⟩
  · exact hdrawn.collision hinside ⟨62, 30, hcorner, by rw [hlit]; decide⟩
  · rw [hdrawn.pixels hinside 62 30 (by decide) (by decide), if_pos hcorner, hlit]
    rfl
  · rw [hdrawn.pixels hinside 1 0 (by decide) (by decide), if_pos hcovers, hdark]
    rfl

end SuperChip.Machine
