import SuperChip.Proofs.Step

/-!
# What an instruction can change

Seen from outside, an instruction does one of five things: it computes, it paints,
it calls or returns, or it stores a register in a timer.  `Executed` says so, with
the parts of the machine that change each time, and so names the parts that stay:
no instruction touches the keys or the signal of the sound timer, only painting
touches the picture and its signal, and only calls and returns touch the stack.
Whoever wants to know what an instruction leaves alone takes these cases and does
not look at the instructions again.
-/

namespace SuperChip

/-- What an action can make of a plane and a resolution: a scroll and a sprite
work in the rectangle of that moment, and with another rectangle the plane starts
blank. -/
inductive Plane.Change (plane : Plane) (resolution : Resolution) : Plane → Resolution → Prop
  | kept : Change plane resolution plane resolution
  | cleared (other : Resolution) : Change plane resolution .blank other
  | scrolledDown (rows : Nat) :
      Change plane resolution (plane.scrollDown resolution rows) resolution
  | scrolledRight : Change plane resolution (plane.scrollRight resolution) resolution
  | scrolledLeft : Change plane resolution (plane.scrollLeft resolution) resolution
  | stamped (x y rowBytes : Nat) (sprite : List UInt8) :
      Change plane resolution (plane.stamp resolution x y rowBytes sprite).1 resolution

namespace Machine

/-- The machines that executing an instruction can lead to. -/
inductive Executed (m : Machine) : Instruction → Machine → Prop
  | computed {instruction : Instruction} (memory : Memory) (v : Vector UInt8 16) (i pc : Int)
      (waiting : Bool) (awaitedRegister : Fin 16) (flags : Vector UInt8 8) :
      Executed m instruction { m with
        memory := memory, v := v, i := i, pc := pc, waiting := waiting
        awaitedRegister := awaitedRegister, flags := flags }
  | painted {instruction : Instruction} (v : Vector UInt8 16) {plane : Plane}
      {resolution : Resolution} (hchange : m.plane.Change m.resolution plane resolution) :
      Executed m instruction { m with
        v := v, plane := plane, resolution := resolution, redraw := true }
  | called (target : Nat) (stack : Vector Int 16) (sp : Int) (pc : Int) :
      Executed m (.call target) { m with stack := stack, sp := sp, pc := pc }
  | returned (sp pc : Int) : Executed m .ret { m with sp := sp, pc := pc }
  | delayed (x : Fin 16) : Executed m (.setDelay x) { m with delay := (m.v.get x).toNat }
  | sounded (x : Fin 16) : Executed m (.setSound x) { m with sound := (m.v.get x).toNat }

variable {m : Machine} {instruction : Instruction}

theorem Executed.registers (v : Vector UInt8 16) : Executed m instruction { m with v := v } :=
  .computed m.memory v m.i m.pc m.waiting m.awaitedRegister m.flags

theorem Executed.place (pc : Int) : Executed m instruction { m with pc := pc } :=
  .computed m.memory m.v m.i pc m.waiting m.awaitedRegister m.flags

theorem Executed.unchanged : Executed m instruction m := .registers m.v

variable (m)

theorem exists_skipIf_eq (condition : Bool) : ∃ pc, m.skipIf condition = { m with pc := pc } := by
  unfold skipIf
  split
  · exact ⟨m.pc + 2, rfl⟩
  · exact ⟨m.pc, rfl⟩

theorem exists_combine_eq (operation : Arithmetic) (x y : Fin 16) :
    ∃ v, m.combine operation x y = { m with v := v } := by
  unfold combine writeFlag
  cases operation.flag? (m.v.get x) (m.v.get y) with
  | some flag => exact ⟨_, rfl⟩
  | none => exact ⟨_, rfl⟩

theorem exists_resolveWait_eq :
    ∃ v waiting, m.resolveWait = { m with v := v, waiting := waiting } := by
  unfold resolveWait
  split
  · exact ⟨_, false, rfl⟩
  · exact ⟨m.v, m.waiting, rfl⟩

theorem exists_stamp_eq (x y : Nat) (shape : SpriteShape) :
    ∃ v plane, (m.stamp x y shape).machine = { m with v := v, plane := plane } ∧
      m.plane.Change m.resolution plane m.resolution := by
  unfold stamp
  split
  · exact ⟨m.v, m.plane, rfl, .kept⟩
  · split
    · exact ⟨m.v, m.plane, rfl, .kept⟩
    · rename_i sprite _
      dsimp only [Effect.machine]
      split
      · exact ⟨_, _, rfl, .stamped x y shape.rowBytes sprite⟩
      · exact ⟨m.v, _, rfl, .stamped x y shape.rowBytes sprite⟩

/-- A sprite that cannot be read leaves the machine alone. -/
theorem eq_of_stamp_faulted {x y : Nat} {shape : SpriteShape} {fault : Fault} {after : Machine}
    (h : m.stamp x y shape = .faulted fault after) : after = m := by
  unfold stamp at h
  split at h
  · cases h
  · split at h
    · cases h
      rfl
    · cases h

theorem executed_skipIf (condition : Bool) : Executed m instruction (m.skipIf condition) := by
  obtain ⟨pc, hpc⟩ := m.exists_skipIf_eq condition
  rw [hpc]
  exact .place pc

theorem executed_skipKey (whenPressed : Bool) (x : Fin 16) :
    Executed m instruction (m.skipKey whenPressed x).machine := by
  unfold skipKey
  split
  · exact m.executed_skipIf _
  · exact .unchanged

theorem executed_readDelay (x : Fin 16) : Executed m instruction (m.readDelay x).machine := by
  unfold readDelay
  split
  · exact .registers _
  · exact .unchanged

theorem executed_scrollDown (rows : Int) : Executed m instruction (m.scrollDown rows) := by
  unfold scrollDown
  split
  · exact .unchanged
  · exact .painted m.v (.scrolledDown rows.toNat)

theorem executed_call (target : Nat) : Executed m (.call target) (m.call target).machine := by
  unfold call
  split
  · exact .called target m.stack m.sp _
  · split
    · exact .called ..
    · exact .unchanged

theorem executed_ret : Executed m .ret m.ret.machine := by
  unfold ret
  split
  · exact .unchanged
  · dsimp only
    split
    · exact .returned ..
    · exact .returned _ m.pc

/-- Drawing paints, unless the sprite cannot be read; then only the flag register is
cleared. -/
theorem executed_draw (variant : Variant) (x y n : Fin 16) :
    Executed m instruction (m.draw variant x y n).machine := by
  have hstamp := (m.setRegister flagRegister 0).exists_stamp_eq (m.v.get x).toNat
    (m.v.get y).toNat (spriteShape variant m.resolution n)
  obtain ⟨v, plane, hmachine, hchange⟩ := hstamp
  unfold draw
  dsimp only
  -- whether the sprite is drawn or not, a fault apart, the picture counts as changed
  cases heffect : (m.setRegister flagRegister 0).stamp (m.v.get x).toNat (m.v.get y).toNat
      (spriteShape variant m.resolution n) with
  | completed after =>
      rw [heffect] at hmachine
      simp only [Effect.machine] at hmachine
      rw [hmachine]
      exact .painted v hchange
  | anomalous anomaly after =>
      rw [heffect] at hmachine
      simp only [Effect.machine] at hmachine
      rw [hmachine]
      exact .painted v hchange
  | faulted fault after =>
      rw [eq_of_stamp_faulted _ heffect]
      exact .registers _

/-- Every instruction does one of the five things. -/
theorem executed (variant : Variant) (random : Int) (instruction : Instruction) :
    Executed m instruction (m.execute variant random instruction).machine := by
  cases instruction with
  | clear => exact .painted m.v (.cleared m.resolution)
  | ret => exact m.executed_ret
  | scrollDown rows => exact m.executed_scrollDown _
  | scrollRight => exact .painted m.v .scrolledRight
  | scrollLeft => exact .painted m.v .scrolledLeft
  | switchResolution resolution => exact .painted m.v (.cleared resolution)
  | call target => exact m.executed_call target
  | skipImmediate whenEqual x kk => exact m.executed_skipIf _
  | skipRegister whenEqual x y n => exact m.executed_skipIf _
  | combine operation x y =>
      obtain ⟨v, hv⟩ := m.exists_combine_eq operation x y
      show Executed m _ (m.combine operation x y)
      rw [hv]
      exact .registers v
  | draw x y n => exact m.executed_draw variant x y n
  | skipKey whenPressed x => exact m.executed_skipKey whenPressed x
  | readDelay x => exact m.executed_readDelay x
  | setDelay x => exact .delayed x
  | setSound x => exact .sounded x
  | _ => exact .computed ..

end Machine

end SuperChip
