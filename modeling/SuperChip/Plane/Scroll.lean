import SuperChip.Plane.Basic

/-!
# Scrolling

A scroll moves the pixels of the active rectangle and brings in dark ones; what
leaves the rectangle is lost, and the margin of the plane does not take part.
It is made within the plane, by copying a part of each row to another place, one
row after the other, and turning dark what is left over.  A scroll down copies
the lowest row first, so that no row is overwritten before it has been read.
-/

namespace SuperChip

/-- The number of columns by which a scroll to a side moves. -/
def Scroll.columns : Nat := 4

namespace Plane

/-! ## Spans of pixels -/

/-- Pixels with `count` of them, one after the other, replaced by the values of a
function. -/
def writeSpan (pixels : Vector UInt8 8192) (start : Nat) (value : Nat → UInt8) :
    Nat → Vector UInt8 8192
  | 0 => pixels
  | count + 1 =>
      (writeSpan pixels start value count).setIfInBounds (start + count) (value count)

/-- The plane with `count` pixels, one after the other, copied to another place.  All
of them are read before the first is written. -/
def copySpan (plane : Plane) (source target count : Nat) : Plane :=
  ⟨writeSpan plane.pixels target (fun k => plane.pixels[source + k]?.getD 0) count⟩

/-- The plane with `count` pixels, one after the other, turned dark. -/
def darkenSpan (plane : Plane) (start count : Nat) : Plane :=
  ⟨writeSpan plane.pixels start (fun _ => 0) count⟩

/-! ## One row -/

/-- One row with its first `width` pixels dark. -/
def darkenRow (width : Nat) (plane : Plane) (row : Nat) : Plane :=
  plane.darkenSpan (row * stride) width

/-- One row with its first `width` pixels moved four columns to the left. -/
def slideRowLeft (width : Nat) (plane : Plane) (row : Nat) : Plane :=
  (plane.copySpan (row * stride + Scroll.columns) (row * stride)
    (width - Scroll.columns)).darkenSpan (row * stride + (width - Scroll.columns)) Scroll.columns

/-- One row with its first `width` pixels moved four columns to the right. -/
def slideRowRight (width : Nat) (plane : Plane) (row : Nat) : Plane :=
  (plane.copySpan (row * stride) (row * stride + Scroll.columns)
    (width - Scroll.columns)).darkenSpan (row * stride) Scroll.columns

/-! ## The three scrolls -/

/-- The plane with the first `left` rows copied `rows` rows down, the lowest of them
first. -/
def copyRowsDown (width rows : Nat) : Nat → Plane → Plane
  | 0, plane => plane
  | left + 1, plane =>
      copyRowsDown width rows left
        (plane.copySpan (left * stride) ((left + rows) * stride) width)

/-- The plane scrolled down by some rows: the rows are copied, and those at the top turn
dark. -/
def scrollDown (plane : Plane) (resolution : Resolution) (rows : Nat) : Plane :=
  let count := min rows resolution.height
  (List.range count).foldl (darkenRow resolution.width)
    (copyRowsDown resolution.width count (resolution.height - count) plane)

/-- The plane scrolled left by four columns, row by row. -/
def scrollLeft (plane : Plane) (resolution : Resolution) : Plane :=
  (List.range resolution.height).foldl (slideRowLeft resolution.width) plane

/-- The plane scrolled right by four columns, row by row. -/
def scrollRight (plane : Plane) (resolution : Resolution) : Plane :=
  (List.range resolution.height).foldl (slideRowRight resolution.width) plane

end Plane

end SuperChip
