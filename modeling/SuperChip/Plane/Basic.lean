import SuperChip.Variant

/-!
# The display plane

The plane has 64 rows of 128 pixels, a byte each, whatever the resolution; the
resolution only says how large the active rectangle in its upper left corner
is.  A pixel is dark if its byte is zero.  Programs write zeros and ones only,
but a host may write any byte.
-/

namespace SuperChip

/-- The pixels of the plane, row after row. -/
structure Plane where
  pixels : Vector UInt8 8192
  deriving DecidableEq

namespace Plane

/-- The number of pixels in a row of the plane. -/
def stride : Nat := 128

/-- A plane in which every pixel is dark. -/
def blank : Plane := ⟨Vector.replicate 8192 0⟩

/-- The pixel at a column and a row. -/
def pixel (plane : Plane) (x y : Nat) : UInt8 := plane.pixels[y * stride + x]?.getD 0

/-! ## The active rectangle -/

/-- The first `width` pixels of a row. -/
def row (plane : Plane) (width y : Nat) : List UInt8 :=
  (plane.pixels.toArray.extract (y * stride) (y * stride + width)).toList

/-- The rows of the active rectangle. -/
def active (plane : Plane) (resolution : Resolution) : List (List UInt8) :=
  (List.range resolution.height).map fun y => plane.row resolution.width y

/-! ## Pixels and rows -/

theorem pixel_blank {x y : Nat} (hx : x < stride) (hy : y < 64) : blank.pixel x y = 0 := by
  have inside : y * stride + x < 8192 := by
    simp only [stride] at *
    omega
  simp [pixel, blank, inside]

theorem length_active (plane : Plane) (resolution : Resolution) :
    (plane.active resolution).length = resolution.height := by
  simp [active]

/-- A row holds the pixels of its columns. -/
theorem getElem?_row (plane : Plane) {width x y : Nat} (hx : x < width) (hw : width ≤ stride)
    (hy : y < 64) : (plane.row width y)[x]? = some (plane.pixel x y) := by
  simp only [stride] at hw
  have inside : y * 128 + x < 8192 := by omega
  rw [row, Array.toList_extract, List.extract_eq_take_drop, Nat.add_sub_cancel_left,
    List.getElem?_take_of_lt hx, List.getElem?_drop]
  simp [pixel, stride, inside]

theorem length_row (plane : Plane) {width y : Nat} (hwidth : width ≤ stride) (hy : y < 64) :
    (plane.row width y).length = width := by
  simp only [stride] at hwidth
  simp only [row, stride, Array.length_toList, Array.size_extract, Vector.size_toArray]
  omega

theorem getElem?_active (plane : Plane) (resolution : Resolution) {y : Nat}
    (hy : y < resolution.height) :
    (plane.active resolution)[y]? = some (plane.row resolution.width y) := by
  simp [active, hy]

/-- A plane is known by its pixels. -/
theorem eq_of_pixel {plane other : Plane}
    (hpixel : ∀ x y, x < stride → y < 64 → plane.pixel x y = other.pixel x y) :
    plane = other := by
  have hpixels : plane.pixels = other.pixels := by
    apply Vector.ext
    intro position hposition
    have hplace : position / stride * stride + position % stride = position :=
      Nat.div_add_mod' position stride
    have hsame := hpixel (position % stride) (position / stride)
      (Nat.mod_lt _ (by decide)) (Nat.div_lt_of_lt_mul hposition)
    simpa only [pixel, hplace, Vector.getElem?_eq_getElem hposition, Option.getD_some] using hsame
  calc plane = ⟨plane.pixels⟩ := rfl
    _ = ⟨other.pixels⟩ := by rw [hpixels]

end Plane

end SuperChip
