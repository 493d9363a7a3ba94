import SuperChip.Plane.Basic
import SuperChip.Fault

/-!
# Pictures of the active rectangle

A frame is shown in two ways: as text, a line for each row of pixels, or in two
colours, a list of pixels for each column.  As text, every pixel that is not
zero is lit; in colours, the lowest bit of the pixel chooses.
-/

namespace SuperChip.Picture

/-! ## As text -/

/-- One row of pixels as text. -/
def rowText (on off : String) (row : List UInt8) : String :=
  String.join (row.map fun pixel => if pixel = 0 then off else on)

/-- Rows of pixels as lines of text. -/
def text (on off : String) (rows : List (List UInt8)) : String :=
  "\n".intercalate (rows.map (rowText on off))

/-! ## In colours -/

/-- A colour, a byte for each component. -/
abbrev Colour := List UInt8

/-- The colour of lit pixels. -/
def foreground : List Int := [220, 230, 255]

/-- The colour of dark pixels. -/
def background : List Int := [16, 16, 24]

/-- A colour component as a byte. -/
def component (value : Int) : Except Fault UInt8 :=
  if 0 ≤ value ∧ value < 256 then .ok (UInt8.ofNat value.toNat)
  else if -0x8000000000000000 ≤ value ∧ value < 0x8000000000000000 then
    .error (.colourComponent value)
  else .error .colourTooWide

/-- The place before which a cut ends: a negative one counts from the end. -/
def cut (size : Nat) (stop : Int) : Nat :=
  if stop < 0 then (size + stop).toNat else min size stop.toNat

/-- The two colours as bytes, the dark one first. -/
def palette (lit dark : List Int) : Except Fault (Colour × Colour) := do
  if lit.length ≠ dark.length then throw .unevenColours
  let dark ← dark.mapM component
  let lit ← lit.mapM component
  return (dark, lit)

/-- A picture in colours: its columns from the left, the pixels of each from the
top. -/
structure Coloured where
  width : Nat
  height : Nat
  channels : Nat
  columns : List (List Colour)
  deriving DecidableEq, Repr

/-- The colour of a pixel. -/
def shade (dark lit : Colour) (pixel : UInt8) : Colour :=
  if pixel &&& 1 = 0 then dark else lit

/-- The upper left corner of a plane of 64 rows of 128 pixels, in two colours. -/
def coloured (pixels : Array UInt8) (width height : Int) (lit dark : List Int) :
    Except Fault Coloured := do
  if pixels.size ≠ 8192 then throw (.planeSize pixels.size)
  let (dark, lit) ← palette lit dark
  let columns := cut Plane.stride width
  let rows := cut 64 height
  return {
    width := columns
    height := rows
    channels := lit.length
    columns := (List.range columns).map fun x =>
      (List.range rows).map fun y => shade dark lit (pixels[y * Plane.stride + x]?.getD 0) }

end SuperChip.Picture
