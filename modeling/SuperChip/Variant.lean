import SuperChip.Fault

/-!
# Variants of the instruction set and resolutions of the display
-/

namespace SuperChip

/-- The two instruction sets: the plain one and its extension. -/
inductive Variant where
  | schip
  | chip8
  deriving DecidableEq, Repr, Inhabited

namespace Variant

/-- The name of a variant on the command line and in messages. -/
def name : Variant → String
  | schip => "schip"
  | chip8 => "chip8"

/-- All variants, in the order in which they are offered. -/
def all : List Variant := [schip, chip8]

/-- The variant with a name. -/
def ofName (name : String) : Except Fault Variant :=
  match all.find? fun variant => variant.name == name with
  | some variant => .ok variant
  | none => .error (.unknownVariant name)

end Variant

/-- The two sizes of the active rectangle of the display. -/
inductive Resolution where
  | low
  | high
  deriving DecidableEq, Repr, Inhabited

namespace Resolution

/-- The number of columns of the active rectangle. -/
def width : Resolution → Nat
  | low => 64
  | high => 128

/-- The number of rows of the active rectangle. -/
def height : Resolution → Nat
  | low => 32
  | high => 64

theorem width_le (r : Resolution) : r.width ≤ 128 := by cases r <;> decide

theorem height_le (r : Resolution) : r.height ≤ 64 := by cases r <;> decide

theorem width_pos (r : Resolution) : 0 < r.width := by cases r <;> decide

theorem height_pos (r : Resolution) : 0 < r.height := by cases r <;> decide

end Resolution

end SuperChip
