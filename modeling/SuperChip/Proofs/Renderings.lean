import Mathlib.Data.List.TFAE
import Mathlib.Tactic.TFAE
import SuperChip.Proofs.Margin
import SuperChip.Proofs.Reachable

/-!
# All renderings of a picture agree

A picture leaves the machine in five ways: as rows of pixels, as one row of all
pixels, as text with two marks of one's choice, as the lines that the monitor
prints, and in two colours, column by column.  Each reads the plane in its own
way: a row is cut out of the plane, a column is picked from it pixel by pixel, a
mark asks whether the pixel is zero and a colour asks for its lowest bit.

## Strategy

All five are tables, and each has at a column and a row some function of the one
pixel of the plane there: `cell?_map` for those that are made row by row,
`getElem?_flatten` for the one row of all pixels, and `cell?_columns` for the
colours.  The functions differ on pixels other than zero and one; but a program
draws no others (`Plane.Confined`), and on these two they agree.
-/

namespace SuperChip

namespace Picture

/-! ## Tables -/

variable {α β : Type} {rows : List (List α)} {width height : Nat}

/-- So many rows, all of one width. -/
structure IsTable (rows : List (List α)) (width height : Nat) : Prop where
  length_eq : rows.length = height
  length_row_eq : ∀ row ∈ rows, row.length = width

/-- The cell of a table at a column and a row. -/
def cell? (rows : List (List α)) (x y : Nat) : Option α := rows[y]?.bind fun row => row[x]?

theorem IsTable.map (h : IsTable rows width height) (f : α → β) :
    IsTable (rows.map (List.map f)) width height where
  length_eq := by rw [List.length_map, h.length_eq]
  length_row_eq := by
    intro row hrow
    obtain ⟨source, hsource, rfl⟩ := List.mem_map.mp hrow
    rw [List.length_map, h.length_row_eq source hsource]

theorem cell?_map (rows : List (List α)) (f : α → β) (x y : Nat) :
    cell? (rows.map (List.map f)) x y = (cell? rows x y).map f := by
  simp only [cell?, List.getElem?_map]
  cases rows[y]? with
  | none => rfl
  | some row => simp

theorem IsTable.length_flatten (h : IsTable rows width height) :
    rows.flatten.length = width * height := by
  have hlengths : rows.map List.length = List.replicate height width := by
    refine List.eq_replicate_iff.mpr ⟨?_, ?_⟩
    · rw [List.length_map, h.length_eq]
    · intro length hlength
      obtain ⟨row, hrow, rfl⟩ := List.mem_map.mp hlength
      exact h.length_row_eq row hrow
  rw [List.length_flatten, hlengths, List.sum_replicate_nat, Nat.mul_comm]

/-- In one row, the rows of a table stand one behind the other. -/
theorem IsTable.getElem?_flatten (h : IsTable rows width height) {x : Nat} (hx : x < width)
    (y : Nat) : rows.flatten[y * width + x]? = cell? rows x y := by
  obtain ⟨-, hrows⟩ := h
  induction rows generalizing y with
  | nil => simp [cell?]
  | cons row rest ih =>
      have hrow : row.length = width := hrows row List.mem_cons_self
      have hrest : ∀ row ∈ rest, row.length = width :=
        fun row hmem => hrows row (List.mem_cons_of_mem _ hmem)
      rw [List.flatten_cons]
      cases y with
      | zero =>
          rw [Nat.zero_mul, Nat.zero_add, List.getElem?_append_left (by omega)]
          rfl
      | succ y =>
          have hplace : (y + 1) * width + x - row.length = y * width + x := by
            rw [hrow, Nat.add_mul]
            omega
          have hbehind : row.length ≤ (y + 1) * width + x := by
            rw [hrow, Nat.add_mul]
            omega
          rw [List.getElem?_append_right hbehind, hplace, ih y hrest]
          rfl

/-! ## Text -/

/-- The mark of a pixel. -/
def mark (on off : Char) (pixel : UInt8) : Char := if pixel = 0 then off else on

theorem toList_rowText (on off : Char) (row : List UInt8) :
    (rowText on.toString off.toString row).toList = row.map (mark on off) := by
  rw [rowText, String.toList_join]
  induction row with
  | nil => rfl
  | cons pixel rest ih =>
      have hmark : (if pixel = 0 then off.toString else on.toString).toList =
          [mark on off pixel] := by
        by_cases hdark : pixel = 0
        · simp [mark, hdark]
        · simp [mark, hdark]
      rw [List.map_cons, List.flatMap_cons, hmark, ih]
      rfl

theorem map_toList_rowText (on off : Char) (rows : List (List UInt8)) :
    (rows.map (rowText on.toString off.toString)).map String.toList =
      rows.map (List.map (mark on off)) := by
  rw [List.map_map]
  exact List.map_congr_left fun row _ => toList_rowText on off row

/-- The lines of a text are the rows of marks, with line feeds between them. -/
theorem toList_text (on off : Char) (rows : List (List UInt8)) :
    (text on.toString off.toString rows).toList =
      ['\n'].intercalate (rows.map (List.map (mark on off))) := by
  rw [text, String.toList_intercalate, map_toList_rowText]
  rfl

/-- Marks other than a line feed leave the lines to be found again. -/
theorem splitOn_text {on off : Char} (hon : on ≠ '\n') (hoff : off ≠ '\n')
    {rows : List (List UInt8)} (hrows : rows ≠ []) :
    (text on.toString off.toString rows).toList.splitOn '\n' =
      rows.map (List.map (mark on off)) := by
  rw [toList_text]
  refine List.splitOn_intercalate '\n' ?_ (by simpa using hrows)
  intro line hline hfeed
  obtain ⟨row, -, rfl⟩ := List.mem_map.mp hline
  obtain ⟨pixel, -, hpixel⟩ := List.mem_map.mp hfeed
  unfold mark at hpixel
  split at hpixel
  · exact hoff hpixel
  · exact hon hpixel

/-! ## Colours -/

/-- The components of a colour as numbers. -/
def components (colour : Colour) : List Int := colour.map fun byte => (byte.toNat : Int)

theorem component_toNat (byte : UInt8) : component byte.toNat = .ok byte := by
  have hbyte := byte.toNat_lt
  rw [component, if_pos ⟨by omega, by omega⟩, Int.toNat_natCast, UInt8.ofNat_toNat]

theorem mapM_component (colour : Colour) : (components colour).mapM component = .ok colour := by
  induction colour with
  | nil => rfl
  | cons byte rest ih =>
      rw [components, List.map_cons, List.mapM_cons, component_toNat]
      rw [components] at ih
      rw [ih]
      rfl

theorem palette_components {lit dark : Colour} (hlength : lit.length = dark.length) :
    palette (components lit) (components dark) = .ok (dark, lit) := by
  have hsame : (components lit).length = (components dark).length := by
    simp only [components, List.length_map, hlength]
  simp only [palette, hsame, ne_eq, not_true_eq_false, if_false, mapM_component]
  rfl

/-- The columns of the active rectangle in two colours. -/
def columns (plane : Plane) (resolution : Resolution) (lit dark : Colour) : List (List Colour) :=
  (List.range resolution.width).map fun x =>
    (List.range resolution.height).map fun y => shade dark lit (plane.pixel x y)

theorem coloured_eq (plane : Plane) (resolution : Resolution) {lit dark : Colour}
    (hlength : lit.length = dark.length) :
    coloured plane.pixels.toArray resolution.width resolution.height (components lit)
        (components dark) =
      .ok ⟨resolution.width, resolution.height, lit.length,
        columns plane resolution lit dark⟩ := by
  have hwidth : cut Plane.stride resolution.width = resolution.width := by
    cases resolution <;> rfl
  have hheight : cut 64 resolution.height = resolution.height := by
    cases resolution <;> rfl
  have hpixel : ∀ place : Nat,
      plane.pixels.toArray[place]?.getD 0 = plane.pixels[place]?.getD 0 := by
    intro place
    rw [Vector.getElem?_toArray]
  simp only [coloured, Vector.size_toArray, ne_eq, not_true_eq_false, if_false,
    palette_components hlength, hwidth, hheight, hpixel]
  rfl

theorem isTable_columns (plane : Plane) (resolution : Resolution) (lit dark : Colour) :
    IsTable (columns plane resolution lit dark) resolution.height resolution.width where
  length_eq := by simp [columns]
  length_row_eq := by
    intro column hcolumn
    obtain ⟨x, -, rfl⟩ := List.mem_map.mp hcolumn
    simp

theorem cell?_columns (plane : Plane) {resolution : Resolution} (lit dark : Colour) {x y : Nat}
    (hx : x < resolution.width) (hy : y < resolution.height) :
    cell? (columns plane resolution lit dark) y x = some (shade dark lit (plane.pixel x y)) := by
  simp [cell?, columns, hx, hy]

end Picture

/-! ## Rows of the machine and lines of the monitor -/

namespace Machine

open Picture

variable (m : Machine)

theorem isTable_pictureRows :
    IsTable m.pictureRows m.resolution.width m.resolution.height where
  length_eq := m.plane.length_active m.resolution
  length_row_eq := by
    intro row hrow
    obtain ⟨y, hy, rfl⟩ := List.mem_map.mp hrow
    have hheight := m.resolution.height_le
    exact m.plane.length_row m.resolution.width_le (by have := List.mem_range.mp hy; omega)

theorem cell?_pictureRows {x y : Nat} (hx : x < m.resolution.width)
    (hy : y < m.resolution.height) : cell? m.pictureRows x y = some (m.plane.pixel x y) := by
  have hheight := m.resolution.height_le
  rw [cell?, pictureRows, m.plane.getElem?_active m.resolution hy, Option.bind_some,
    m.plane.getElem?_row hx m.resolution.width_le (by omega)]

end Machine

theorem Engine.Reachable.confined {ρ : Type} [Generator ρ] {e : Engine ρ} (h : e.Reachable) :
    e.machine.plane.Confined e.machine.resolution := by
  obtain ⟨variant, strict, listening, random, actions, rfl⟩ := h
  exact confined_afterAll (.blank .low) actions

namespace Monitor

variable {ρ : Type}

theorem forM_print {α : Type} (describe : α → String) (members : List α) (m : Monitor ρ) :
    (members.forM fun member => print (describe member)) m =
      .ok () { m with printed := m.printed ++ (members.map describe).toArray } := by
  induction members generalizing m with
  | nil => simp [pure, EStateM.pure]
  | cons member rest ih =>
      have hfirst : ((member :: rest).forM fun member => print (describe member)) m =
          (rest.forM fun member => print (describe member))
            { m with printed := m.printed.push (describe member) } := rfl
      rw [hfirst, ih]
      simp

/-- The monitor prints a picture row by row. -/
theorem frame_eq (m : Monitor ρ) :
    frame m = .ok () { m with
      printed := m.printed ++ (m.machine.pictureRows.map (Picture.rowText "#" ".")).toArray } :=
  forM_print (Picture.rowText "#" ".") m.machine.pictureRows m

theorem execute_of_frame [Generator ρ] (files : Files) {line argument : String}
    (hline : MonitorLine.read line = .command .frame argument) (m : Monitor ρ) :
    execute files line m = .ok false { m with
      printed := m.printed ++ (m.machine.pictureRows.map (Picture.rowText "#" ".")).toArray } := by
  simp only [execute, hline, perform, goOn, bind, EStateM.bind, frame_eq]
  rfl

end Monitor

namespace Console

open Picture

variable {ρ : Type} [Generator ρ]

/-- **All renderings of a picture agree.**  Whatever a console has been through, the
rows of its machine, the one row of all pixels, the text with two marks, the lines
that the monitor prints and the columns in two colours all have the size of the
active rectangle, and at each column and row they show the same: the pixel is not
zero in the rows, one among all pixels, marked as lit in the text and by the
monitor, and in the colour of lit pixels; or it is none of these, and then it has
the other colour. -/
theorem renderings_agree {c : Console ρ} (hc : c.Sound) {on off : Char} (hmarks : on ≠ off)
    {lit dark : Vector UInt8 3} (hcolours : lit ≠ dark) (files : Files) {line argument : String}
    (hline : MonitorLine.read line = .command .frame argument) :
    let width := c.machine.resolution.width
    let height := c.machine.resolution.height
    let rows := c.machine.pictureRows
    let text := Picture.text on.toString off.toString rows
    ∃ (lines : List (List Char)) (printed : List String) (columns : List (List Colour)),
      IsTable rows width height ∧
      c.machine.framePixels.length = width * height ∧
      text.toList = ['\n'].intercalate lines ∧
      (on ≠ '\n' → off ≠ '\n' → text.toList.splitOn '\n' = lines) ∧
      IsTable lines width height ∧
      (∀ m : Monitor ρ, m.console = c → Monitor.execute files line m =
        .ok false { m with printed := m.printed ++ printed.toArray }) ∧
      IsTable (printed.map String.toList) width height ∧
      coloured c.machine.plane.pixels.toArray width height (components lit.toList)
        (components dark.toList) = .ok ⟨width, height, 3, columns⟩ ∧
      IsTable columns height width ∧
      ∀ x y, x < width → y < height →
        [∃ pixel, cell? rows x y = some pixel ∧ pixel ≠ 0,
          c.machine.framePixels[y * width + x]? = some 1,
          cell? lines x y = some on,
          cell? (printed.map String.toList) x y = some '#',
          cell? columns y x = some lit.toList].TFAE ∧
        (cell? columns y x ≠ some lit.toList → cell? columns y x = some dark.toList) := by
  intro width height rows text
  have htable : IsTable rows width height := c.machine.isTable_pictureRows
  have hprinted : (rows.map (rowText "#" ".")).map String.toList =
      rows.map (List.map (mark '#' '.')) := map_toList_rowText '#' '.' rows
  refine ⟨rows.map (List.map (mark on off)), rows.map (rowText "#" "."),
    columns c.machine.plane c.machine.resolution lit.toList dark.toList, htable,
    htable.length_flatten, toList_text on off rows, ?_, htable.map _, ?_, ?_, ?_,
    isTable_columns .., ?_⟩
  · intro hon hoff
    refine splitOn_text hon hoff ?_
    intro hnone
    have hlength := htable.length_eq
    rw [hnone] at hlength
    exact absurd hlength (Nat.ne_of_lt c.machine.resolution.height_pos)
  · rintro m rfl
    exact Monitor.execute_of_frame files hline m
  · rw [hprinted]
    exact htable.map _
  · rw [coloured_eq _ _ (by simp), Vector.length_toList]
  · intro x y hx hy
    have hcell : cell? rows x y = some (c.machine.plane.pixel x y) :=
      c.machine.cell?_pictureRows hx hy
    have hflat : c.machine.framePixels[y * width + x]? = some (c.machine.plane.pixel x y) := by
      rw [← hcell]
      exact htable.getElem?_flatten hx y
    have hheight := c.machine.resolution.height_le
    have hbinary : c.machine.plane.pixel x y = 0 ∨ c.machine.plane.pixel x y = 1 :=
      (Engine.Reachable.confined hc).binary x y
        (Nat.lt_of_lt_of_le hx c.machine.resolution.width_le) (by omega)
    have hdiffer : lit.toList ≠ dark.toList := fun heq => hcolours (Vector.toList_inj.mp heq)
    rw [hprinted, cell?_map, cell?_map, hcell, hflat, cell?_columns _ _ _ hx hy]
    -- zero and one are all that a program draws, and on them the functions agree
    rcases hbinary with hzero | hone
    · rw [hzero]
      refine ⟨?_, fun _ => rfl⟩
      apply List.tfae_of_forall False
      simp [mark, shade, hmarks.symm, hdiffer.symm]
    · rw [hone]
      refine ⟨?_, fun hother => absurd rfl hother⟩
      apply List.tfae_of_forall True
      simp [mark, shade]

/-- A pixel of a digit in the large rectangle, as it is seen in the text and in
colours. -/
theorem renderings_agree_on_digit :
    ∃ c : Console Cycle, assemble "schip" 2 false (.ofList [7]) = .ok c ∧
      let drawn := Move.step.after <| Move.step.after <|
        (Move.load [0x00, 0xFF, 0xD0, 0x05]).after c
      let width := drawn.machine.resolution.width
      let height := drawn.machine.resolution.height
      let lit : Vector UInt8 3 := #v[220, 230, 255]
      let dark : Vector UInt8 3 := #v[16, 16, 24]
      drawn.machine.resolution = .high ∧ '@' ≠ '.' ∧ lit ≠ dark ∧
        MonitorLine.read "frame" = .command .frame "" ∧
        ∃ lines columns,
          (Picture.text '@'.toString '.'.toString drawn.machine.pictureRows).toList =
            ['\n'].intercalate lines ∧
          coloured drawn.machine.plane.pixels.toArray width height (components lit.toList)
            (components dark.toList) = .ok ⟨width, height, 3, columns⟩ ∧
          cell? lines 3 0 = some '@' ∧ cell? columns 0 3 = some lit.toList := by
  have hassembled : assemble "schip" 2 false (Cycle.ofList [7]) = .ok _ := rfl
  refine ⟨_, hassembled, ?_⟩
  intro drawn width height lit dark
  have hsound : drawn.Sound :=
    (((sound_of_assemble hassembled).after _).after .step).after .step
  obtain ⟨hresolution, hpixel⟩ : drawn.machine.resolution = .high ∧
      drawn.machine.framePixels[0 * width + 3]? = some 1 := by
    decide +kernel
  have hmarks : '@' ≠ '.' := by decide
  have hcolours : lit ≠ dark := by decide
  have hline : MonitorLine.read "frame" = .command .frame "" := by decide +kernel
  obtain ⟨lines, printed, columns, -, -, htext, -, -, -, -, hcoloured, -, hpixels⟩ :=
    renderings_agree hsound hmarks hcolours Folder.empty.files hline
  obtain ⟨hagree, -⟩ := hpixels 3 0 (by rw [hresolution]; decide) (by rw [hresolution]; decide)
  exact ⟨hresolution, hmarks, hcolours, hline, lines, columns, htext, hcoloured,
    (hagree.out 1 2).mp hpixel, (hagree.out 1 4).mp hpixel⟩

end Console

end SuperChip
