import SuperChip.Plane.Basic

/-!
# Drawing sprites

A sprite is drawn by toggling one pixel for each of its bits that is set.  Its
position counts modulo the active rectangle, and so does every pixel of it, so
a sprite that leaves the rectangle on one side comes in on the other.  A
toggled pixel that was lit before is a collision.
-/

namespace SuperChip

/-- The size of a sprite: the bytes in each of its rows, and its rows. -/
structure SpriteShape where
  rowBytes : Nat
  rows : Nat
  deriving DecidableEq, Repr

namespace SpriteShape

/-- The number of bytes of a sprite. -/
def size (shape : SpriteShape) : Nat := shape.rowBytes * shape.rows

end SpriteShape

/-- The columns of the bits that are set in a byte, the highest bit first. -/
def litColumns (byte : UInt8) : List Nat :=
  (List.range 8).filter fun column => byte.toNat.testBit (7 - column)

/-- The columns and rows of the bits that are set in a sprite with so many
bytes in each row, where `index` is the place of the first byte. -/
def litOffsets (rowBytes index : Nat) : List UInt8 → List (Nat × Nat)
  | [] => []
  | byte :: rest =>
    (litColumns byte).map (fun column => (index % rowBytes * 8 + column, index / rowBytes)) ++
      litOffsets rowBytes (index + 1) rest

namespace Plane

/-- The plane with the pixel at a position toggled, and whether that pixel was
lit. -/
def toggle (plane : Plane) (position : Nat) : Plane × Bool :=
  if inside : position < 8192 then
    let old := plane.pixels[position]
    (⟨plane.pixels.set position (old ^^^ 1)⟩, old != 0)
  else (plane, false)

/-- The position of a pixel of the active rectangle, where columns and rows
count modulo its size. -/
def position (resolution : Resolution) (x y : Nat) : Nat :=
  y % resolution.height * stride + x % resolution.width

/-- The plane with the pixels at some positions toggled one after the other,
and whether one of them was lit or `hit` was so before. -/
def toggleAll (plane : Plane) (hit : Bool) : List Nat → Plane × Bool
  | [] => (plane, hit)
  | position :: rest =>
    match plane.toggle position with
    | (plane, lit) => plane.toggleAll (hit || lit) rest

/-- The plane with a sprite drawn at a column and a row, and whether there was
a collision. -/
def stamp (plane : Plane) (resolution : Resolution) (x y rowBytes : Nat)
    (sprite : List UInt8) : Plane × Bool :=
  plane.toggleAll false <|
    (litOffsets rowBytes 0 sprite).map fun offset =>
      position resolution (x + offset.1) (y + offset.2)

/-- A toggle changes the lowest bit of one pixel and no other pixel. -/
theorem pixel_toggle (plane : Plane) {place x y : Nat} (inside : place < 8192) :
    (plane.toggle place).1.pixel x y =
      if y * stride + x = place then plane.pixel x y ^^^ 1 else plane.pixel x y := by
  simp only [toggle, inside, dif_pos, pixel, Vector.getElem?_set]
  by_cases same : place = y * stride + x
  · subst same
    simp [inside]
  · simp [same, Ne.symm same]

end Plane

end SuperChip
