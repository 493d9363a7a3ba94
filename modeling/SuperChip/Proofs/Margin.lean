import SuperChip.Proofs.Host
import SuperChip.Proofs.ScrolledPixels
import SuperChip.Proofs.Words

/-!
# The margin of the plane stays dark

A program works in the active rectangle of the plane only, and it writes zeros
and ones only.  So outside the rectangle every pixel is dark, whatever has been
drawn and scrolled, and since a change of the resolution clears the plane, no
pixel of an old picture comes to light when the rectangle grows.

## Strategy

`Plane.Change` lists what an action can do to the plane: keep it, clear it, scroll
it or draw on it, each time within the rectangle of that moment, and only when it
clears the plane can it choose another rectangle.  The invariant `Plane.Confined`
is about a plane and a rectangle alone and survives every entry of the list, so
nothing is left to know of an instruction but its entry (`Executed.planeChange`).
-/

namespace SuperChip

namespace Plane

/-- Every pixel of a plane is zero or one, and zero outside the active rectangle. -/
structure Confined (plane : Plane) (resolution : Resolution) : Prop where
  binary : ∀ x y, x < stride → y < 64 → plane.pixel x y = 0 ∨ plane.pixel x y = 1
  margin : ∀ x y, x < stride → y < 64 → resolution.width ≤ x ∨ resolution.height ≤ y →
    plane.pixel x y = 0

namespace Confined

variable {plane : Plane} {resolution : Resolution}

theorem blank (resolution : Resolution) : Plane.blank.Confined resolution where
  binary _ _ hx hy := .inl (pixel_blank hx hy)
  margin _ _ hx hy _ := pixel_blank hx hy

/-- A plane is confined if inside the rectangle each of its pixels is dark or one
of a confined plane, and outside the two planes are the same. -/
theorem of_pixels {other : Plane} (h : plane.Confined resolution)
    (hinside : ∀ x y, x < resolution.width → y < resolution.height →
      other.pixel x y = 0 ∨ ∃ x' y', x' < stride ∧ y' < 64 ∧ other.pixel x y = plane.pixel x' y')
    (houtside : ∀ x y, x < stride → y < 64 → resolution.width ≤ x ∨ resolution.height ≤ y →
      other.pixel x y = plane.pixel x y) : other.Confined resolution where
  binary x y hx hy := by
    -- what comes into the rectangle was on the plane before, or is dark
    by_cases hmargin : resolution.width ≤ x ∨ resolution.height ≤ y
    · rw [houtside x y hx hy hmargin]
      exact h.binary x y hx hy
    · rcases hinside x y (by omega) (by omega) with hdark | ⟨x', y', hx', hy', hold⟩
      · exact .inl hdark
      · rw [hold]
        exact h.binary x' y' hx' hy'
  margin x y hx hy hmargin := by
    rw [houtside x y hx hy hmargin]
    exact h.margin x y hx hy hmargin

theorem scrollDown (h : plane.Confined resolution) (rows : Nat) :
    (plane.scrollDown resolution rows).Confined resolution := by
  have hwidth : resolution.width ≤ stride := resolution.width_le
  have hheight := resolution.height_le
  refine h.of_pixels ?_ ?_
  · intro x y hx hy
    rw [pixel_scrollDown plane resolution rows (by omega) (by omega), if_pos ⟨hx, hy⟩]
    by_cases hnew : y < rows
    · exact .inl (if_pos hnew)
    · exact .inr ⟨x, y - rows, by omega, by omega, if_neg hnew⟩
  · intro x y hx hy hmargin
    rw [pixel_scrollDown plane resolution rows hx hy, if_neg (by omega)]

theorem scrollRight (h : plane.Confined resolution) :
    (plane.scrollRight resolution).Confined resolution := by
  have hwidth : resolution.width ≤ stride := resolution.width_le
  have hheight := resolution.height_le
  refine h.of_pixels ?_ ?_
  · intro x y hx hy
    rw [pixel_scrollRight plane resolution (by omega) (by omega), if_pos ⟨hx, hy⟩]
    by_cases hnew : x < Scroll.columns
    · exact .inl (if_pos hnew)
    · exact .inr ⟨x - Scroll.columns, y, by omega, by omega, if_neg hnew⟩
  · intro x y hx hy hmargin
    rw [pixel_scrollRight plane resolution hx hy, if_neg (by omega)]

theorem scrollLeft (h : plane.Confined resolution) :
    (plane.scrollLeft resolution).Confined resolution := by
  have hwidth : resolution.width ≤ stride := resolution.width_le
  have hheight := resolution.height_le
  refine h.of_pixels ?_ ?_
  · intro x y hx hy
    rw [pixel_scrollLeft plane resolution (by omega) (by omega), if_pos ⟨hx, hy⟩]
    by_cases hold : x + Scroll.columns < resolution.width
    · exact .inr ⟨x + Scroll.columns, y, by omega, by omega, if_pos hold⟩
    · exact .inl (if_neg hold)
  · intro x y hx hy hmargin
    rw [pixel_scrollLeft plane resolution hx hy, if_neg (by omega)]

/-- A toggled pixel lies in the active rectangle, and zero and one are toggled
into each other. -/
theorem toggle (h : plane.Confined resolution) (column line : Nat) :
    (plane.toggle (position resolution column line)).1.Confined resolution := by
  have hwidth := resolution.width_le
  have hheight := resolution.height_le
  have hcolumn := Nat.mod_lt column resolution.width_pos
  have hline := Nat.mod_lt line resolution.height_pos
  have hinside : position resolution column line < 8192 := by
    simp only [position, stride]
    omega
  constructor
  · intro x y hx hy
    rw [pixel_toggle plane hinside]
    split
    · rcases h.binary x y hx hy with hzero | hone
      · rw [hzero]
        exact .inr rfl
      · rw [hone]
        exact .inl rfl
    · exact h.binary x y hx hy
  · intro x y hx hy hmargin
    -- the pixel that changes lies in the rectangle, so none of the margin does
    have helsewhere : ¬ y * stride + x = position resolution column line := by
      simp only [position, stride] at hx ⊢
      omega
    rw [pixel_toggle plane hinside, if_neg helsewhere]
    exact h.margin x y hx hy hmargin

theorem toggleAll (h : plane.Confined resolution) (hit : Bool) {places : List Nat}
    (hplaces : ∀ place ∈ places, ∃ column line, place = position resolution column line) :
    (plane.toggleAll hit places).1.Confined resolution := by
  induction places generalizing plane hit with
  | nil => exact h
  | cons place rest ih =>
      obtain ⟨column, line, rfl⟩ := hplaces place List.mem_cons_self
      exact ih (h.toggle column line) _ fun place hplace =>
        hplaces place (List.mem_cons_of_mem _ hplace)

theorem stamp (h : plane.Confined resolution) (x y rowBytes : Nat) (sprite : List UInt8) :
    (plane.stamp resolution x y rowBytes sprite).1.Confined resolution := by
  refine h.toggleAll false ?_
  intro place hplace
  obtain ⟨offset, -, rfl⟩ := List.mem_map.mp hplace
  exact ⟨_, _, rfl⟩

end Confined

/-! ## Changes of the plane -/

variable {plane plane' : Plane} {resolution resolution' : Resolution}

theorem Change.confined (h : Change plane resolution plane' resolution')
    (hplane : plane.Confined resolution) : plane'.Confined resolution' := by
  cases h with
  | kept => exact hplane
  | cleared => exact .blank resolution'
  | scrolledDown rows => exact hplane.scrollDown rows
  | scrolledRight => exact hplane.scrollRight
  | scrolledLeft => exact hplane.scrollLeft
  | stamped x y rowBytes sprite => exact hplane.stamp x y rowBytes sprite

theorem Change.eq_blank (h : Change plane resolution plane' resolution')
    (hswitched : resolution' ≠ resolution) : plane' = .blank := by
  cases h with
  | cleared => rfl
  | _ => exact absurd rfl hswitched

end Plane

/-! ## The opcodes that switch the resolution -/

namespace Instruction

/-- The word by which a program of the extended set chooses a resolution. -/
def switchWord : Resolution → Nat
  | .low => 0x00FE
  | .high => 0x00FF

theorem decode_of_toNat_eq_switchWord {op : Opcode} {resolution : Resolution}
    (hop : op.toNat = switchWord resolution) :
    decode op = some (.switchResolution resolution) := by
  have hword : op.toNat = (switchResolution resolution).word := by
    cases resolution
    all_goals exact hop
  exact decode_eq_some_iff.mpr ⟨hword, trivial⟩

end Instruction

namespace Machine

/-- What has happened to the picture between two machines. -/
def PlaneChange (before after : Machine) : Prop :=
  before.plane.Change before.resolution after.plane after.resolution

theorem Executed.planeChange {m after : Machine} {instruction : Instruction}
    (h : Executed m instruction after) : PlaneChange m after := by
  cases h with
  | painted v hchange => exact hchange
  | _ => exact .kept

variable {m : Machine}

theorem Stepped.planeChange {variant : Variant} {after : Machine} (h : Stepped variant m after) :
    PlaneChange m after := by
  cases h with
  | awaited =>
      obtain ⟨v, waiting, hresolved⟩ := m.exists_resolveWait_eq
      rw [hresolved]
      exact .kept
  | stayed => exact .kept
  | undefined => exact .kept
  | executed _ _ number => exact (m.fetched.executed variant number _).planeChange

variable (m)

theorem planeChange_outcome {ρ : Type} [Generator ρ] (variant : Variant) (random : ρ)
    (action : HostAction) :
    PlaneChange m (action.outcome variant random m).1.machine := by
  -- of the actions of a host only a restart and a step touch the plane
  cases action with
  | restart program =>
      simp only [HostAction.outcome, restart]
      by_cases hsize : programLimit < program.length
      · rw [if_pos hsize]
        exact .kept
      · rw [if_neg hsize]
        exact .cleared .low
  | step => exact (stepped variant random m).planeChange
  | loadBlock address block =>
      simp only [HostAction.outcome, loadBlock]
      cases m.memory.load address block with
      | ok memory => exact .kept
      | error fault => exact .kept
  | _ => exact .kept

end Machine

namespace Engine

variable {ρ : Type} [Generator ρ]

theorem planeChange_after (e : Engine ρ) (action : HostAction) :
    Machine.PlaneChange e.machine (e.after action).machine := by
  rw [after_machine]
  exact e.machine.planeChange_outcome e.variant e.random action

theorem confined_afterAll {e : Engine ρ} (he : e.machine.plane.Confined e.machine.resolution)
    (actions : List HostAction) :
    (e.afterAll actions).machine.plane.Confined (e.afterAll actions).machine.resolution := by
  induction actions generalizing e with
  | nil => exact he
  | cons action rest ih => exact ih ((e.planeChange_after action).confined he)

/-- Either switch of the resolution starts with a blank plane. -/
theorem after_switch {e : Engine ρ} (hvariant : e.variant = .schip) {op : Opcode}
    (hnext : e.machine.next = .opcode op) {resolution : Resolution}
    (hop : op.toNat = Instruction.switchWord resolution) :
    (e.after .step).machine.resolution = resolution ∧
      (e.after .step).machine.plane = .blank := by
  have hdecode : Instruction.decodeIn e.variant op = some (.switchResolution resolution) := by
    rw [Instruction.decodeIn, Instruction.decode_of_toNat_eq_switchWord hop, hvariant]
    rfl
  obtain ⟨number, hmachine⟩ := Machine.exists_step_eq_execute e.variant e.random hnext hdecode
  have hstep : (e.after .step).machine = e.machine.fetched.switchResolution resolution := by
    rw [after_machine]
    exact hmachine
  rw [hstep]
  exact ⟨rfl, rfl⟩

/-- **The margin stays dark.**  Whatever a host does to an engine from its
construction on, every pixel of the plane is zero or one, and every pixel outside
the active rectangle is zero.  Both switches of the resolution bring the rectangle
that they name with no pixel lit, and so does anything else that changes the
rectangle. -/
theorem plane_confined (variant : Variant) (strict listening : Bool) (random : ρ)
    (actions : List HostAction) :
    let e := (fresh variant strict listening random).afterAll actions
    (∀ x y, x < Plane.stride → y < 64 →
      (e.machine.plane.pixel x y = 0 ∨ e.machine.plane.pixel x y = 1) ∧
      (e.machine.resolution.width ≤ x ∨ e.machine.resolution.height ≤ y →
        e.machine.plane.pixel x y = 0)) ∧
    (∀ action, (e.after action).machine.resolution ≠ e.machine.resolution →
      ∀ x y, x < Plane.stride → y < 64 → (e.after action).machine.plane.pixel x y = 0) ∧
    (variant = .schip → ∀ op resolution, e.machine.next = .opcode op →
      op.toNat = Instruction.switchWord resolution →
      (e.after .step).machine.resolution = resolution ∧
      ∀ x y, x < Plane.stride → y < 64 → (e.after .step).machine.plane.pixel x y = 0) := by
  intro e
  have hfresh : (fresh variant strict listening random).machine.plane.Confined .low := .blank .low
  have hconfined : e.machine.plane.Confined e.machine.resolution :=
    confined_afterAll hfresh actions
  refine ⟨?_, ?_, ?_⟩
  · intro x y hx hy
    exact ⟨hconfined.binary x y hx hy, hconfined.margin x y hx hy⟩
  · intro action hswitched x y hx hy
    rw [(e.planeChange_after action).eq_blank hswitched]
    exact Plane.pixel_blank hx hy
  · intro hvariant op resolution hnext hop
    have hsame : e.variant = .schip := by
      rw [afterAll_variant]
      exact hvariant
    obtain ⟨hresolution, hplane⟩ := after_switch hsame hnext hop
    refine ⟨hresolution, ?_⟩
    intro x y hx hy
    rw [hplane]
    exact Plane.pixel_blank hx hy

/-- A pixel of a glyph in the large rectangle, before the switch to the small one
and after it. -/
theorem plane_confined_switching :
    let actions : List HostAction :=
      [.restart [0x00, 0xFF, 0xD0, 0x01, 0x00, 0xFE], .step, .step]
    let e := (fresh .schip false false (Cycle.ofList [7])).afterAll actions
    e.machine.plane.pixel 3 0 = 1 ∧
      (e.after .step).machine.resolution ≠ e.machine.resolution ∧
      (e.after .step).machine.plane.pixel 3 0 = 0 := by
  intro actions e
  obtain ⟨hlit, hswitched⟩ : e.machine.plane.pixel 3 0 = 1 ∧
      (e.after .step).machine.resolution ≠ e.machine.resolution := by
    decide +kernel
  have he : (fresh .schip false false (Cycle.ofList [7])).afterAll actions = e := rfl
  obtain ⟨-, hdark, -⟩ := plane_confined .schip false false (Cycle.ofList [7]) actions
  rw [he] at hdark
  exact ⟨hlit, hswitched, hdark .step hswitched 3 0 (by decide) (by decide)⟩

end Engine

end SuperChip
