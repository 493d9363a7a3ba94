import SuperChip.Plane.Scroll

/-!
# Where the pixels of a scrolled plane come from

A scroll is made within the plane, row after row.  What a copy reads may have been
overwritten by an earlier one, so that this depends on the order.  Seen pixel by pixel
a scroll brings to each place of the active rectangle what was some rows above it or
four columns beside it, or darkness where nothing was, and it leaves the margin alone.

## Strategy

* `pixel_copySpan` and `pixel_darkenSpan` say what happens to the pixels of one row.
* A scroll down copies whole rows, the lowest first.  The rows still to be copied are
  those above the ones that have been written, and are as they were
  (`pixel_copyRowsDown`).
* Scrolling to a side and darkening treat each row for itself.  `Rowwise` says from
  which column of its row a pixel comes, and `Rowwise.pixel_foldl` carries this over
  the first rows of the plane.
-/

namespace SuperChip

/-- A scroll to a side does not move further than the width. -/
theorem Resolution.columns_le (resolution : Resolution) : Scroll.columns ≤ resolution.width := by
  cases resolution <;> decide

namespace Plane

variable (plane : Plane) {x y : Nat}

/-! ## Spans of pixels -/

theorem getElem?_writeSpan (pixels : Vector UInt8 8192) (start : Nat) (value : Nat → UInt8)
    (count : Nat) {position : Nat} (hinside : position < 8192) :
    (writeSpan pixels start value count)[position]?.getD 0 =
      if start ≤ position ∧ position < start + count then value (position - start)
      else pixels[position]?.getD 0 := by
  induction count with
  | zero => rw [writeSpan, if_neg (by omega)]
  | succ count ih =>
      rw [writeSpan, Vector.getElem?_setIfInBounds]
      -- the last pixel of the span is written last, and lies outside what was written before
      by_cases hlast : start + count = position
      · subst hlast
        rw [if_pos rfl, if_pos hinside, if_pos (by omega), Nat.add_sub_cancel_left,
          Option.getD_some]
      · rw [if_neg hlast, ih]
        by_cases hwritten : start ≤ position ∧ position < start + count
        · rw [if_pos hwritten, if_pos (by omega)]
        · rw [if_neg hwritten, if_neg (by omega)]

/-- A copy to some columns of a row changes no other pixel. -/
theorem pixel_copySpan (source column row start count : Nat) (hx : x < stride) (hy : y < 64)
    (hspan : start + count ≤ stride) :
    (plane.copySpan (source * stride + column) (row * stride + start) count).pixel x y =
      if y = row ∧ start ≤ x ∧ x < start + count then plane.pixel (column + (x - start)) source
      else plane.pixel x y := by
  simp only [stride] at hx hspan
  have hinside : y * 128 + x < 8192 := by omega
  have hplace : (row * 128 + start ≤ y * 128 + x ∧ y * 128 + x < row * 128 + start + count) ↔
      y = row ∧ start ≤ x ∧ x < start + count := by
    omega
  -- both spans run along their rows, so the distance to the start is the same
  have hread : y = row ∧ start ≤ x ∧ x < start + count →
      source * 128 + column + (y * 128 + x - (row * 128 + start)) =
        source * 128 + (column + (x - start)) := by
    omega
  simp only [pixel, copySpan, stride, getElem?_writeSpan _ _ _ _ hinside, hplace]
  by_cases hwritten : y = row ∧ start ≤ x ∧ x < start + count
  · rw [if_pos hwritten, if_pos hwritten, hread hwritten]
  · rw [if_neg hwritten, if_neg hwritten]

theorem pixel_darkenSpan (row start count : Nat) (hx : x < stride) (hy : y < 64)
    (hspan : start + count ≤ stride) :
    (plane.darkenSpan (row * stride + start) count).pixel x y =
      if y = row ∧ start ≤ x ∧ x < start + count then 0 else plane.pixel x y := by
  simp only [stride] at hx hspan
  have hinside : y * 128 + x < 8192 := by omega
  have hplace : (row * 128 + start ≤ y * 128 + x ∧ y * 128 + x < row * 128 + start + count) ↔
      y = row ∧ start ≤ x ∧ x < start + count := by
    omega
  simp only [pixel, darkenSpan, stride, getElem?_writeSpan _ _ _ _ hinside, hplace]

/-! ## Copying rows down -/

theorem pixel_copyRowsDown {width : Nat} (rows left : Nat) (hwidth : width ≤ stride)
    (hx : x < stride) (hy : y < 64) :
    (copyRowsDown width rows left plane).pixel x y =
      if x < width ∧ rows ≤ y ∧ y < left + rows then plane.pixel x (y - rows)
      else plane.pixel x y := by
  induction left generalizing plane with
  | zero =>
      rw [copyRowsDown, if_neg (by omega)]
  | succ left ih =>
      have hcopy : ∀ {line : Nat}, line < 64 →
          (plane.copySpan (left * stride) ((left + rows) * stride) width).pixel x line =
            if line = left + rows ∧ x < width then plane.pixel x left
            else plane.pixel x line := by
        intro line hline
        have h := plane.pixel_copySpan left 0 (left + rows) 0 width hx hline (by omega)
        simpa using h
      rw [copyRowsDown, ih, hcopy hy]
      by_cases hwritten : x < width ∧ rows ≤ y ∧ y < left + rows
      · -- the row that is read lies above the one that was written before
        rw [if_pos hwritten, if_pos (by omega), hcopy (by omega), if_neg (by omega)]
      · rw [if_neg hwritten]
        by_cases hnow : y = left + rows ∧ x < width
        · rw [if_pos hnow, if_pos (by omega), hnow.1, Nat.add_sub_cancel]
        · rw [if_neg hnow, if_neg (by omega)]

/-! ## Each row for itself -/

/-- Work on one row of a plane at a time.  A pixel of the row comes from the column
`origin` of it, or is dark where there is none; the other rows stay. -/
structure Rowwise (work : Plane → Nat → Plane) (origin : Nat → Option Nat) : Prop where
  origin_lt : ∀ x column, x < stride → origin x = some column → column < stride
  pixel : ∀ plane row x y, x < stride → y < 64 →
    (work plane row).pixel x y =
      if y = row then ((origin x).map fun column => plane.pixel column y).getD 0
      else plane.pixel x y

variable {work : Plane → Nat → Plane} {origin : Nat → Option Nat}

theorem Rowwise.pixel_foldl (hwork : Rowwise work origin) (height : Nat) (hx : x < stride)
    (hy : y < 64) :
    ((List.range height).foldl work plane).pixel x y =
      if y < height then ((origin x).map fun column => plane.pixel column y).getD 0
      else plane.pixel x y := by
  induction height generalizing x with
  | zero => rfl
  | succ height ih =>
      rw [List.range_succ, List.foldl_append, List.foldl_cons, List.foldl_nil,
        hwork.pixel _ height x y hx hy]
      by_cases hrow : y = height
      · rw [if_pos hrow, if_pos (by omega)]
        -- the row was not yet touched
        cases hcolumn : origin x with
        | none => rfl
        | some column =>
            rw [Option.map_some, Option.map_some,
              ih (hwork.origin_lt x column hx hcolumn), if_neg (by omega)]
      · rw [if_neg hrow, ih hx]
        by_cases hearlier : y < height
        · rw [if_pos hearlier, if_pos (by omega)]
        · rw [if_neg hearlier, if_neg (by omega)]

theorem rowwise_darkenRow {width : Nat} (hwidth : width ≤ stride) :
    Rowwise (darkenRow width) fun x => if x < width then none else some x where
  origin_lt x column hx horigin := by
    by_cases hinside : x < width
    · rw [if_pos hinside] at horigin
      cases horigin
    · rw [if_neg hinside] at horigin
      cases horigin
      exact hx
  pixel plane row x y hx hy := by
    have hdark := plane.pixel_darkenSpan row 0 width hx hy (by omega)
    rw [Nat.add_zero, Nat.zero_add] at hdark
    rw [darkenRow, hdark]
    by_cases hrow : y = row
    · by_cases hinside : x < width
      · rw [if_pos (by omega), if_pos hrow, if_pos hinside]
        rfl
      · rw [if_neg (by omega), if_pos hrow, if_neg hinside]
        rfl
    · rw [if_neg (by omega), if_neg hrow]

theorem pixel_darkenRows {width : Nat} (height : Nat) (hwidth : width ≤ stride) (hx : x < stride)
    (hy : y < 64) :
    ((List.range height).foldl (darkenRow width) plane).pixel x y =
      if x < width ∧ y < height then 0 else plane.pixel x y := by
  rw [(rowwise_darkenRow hwidth).pixel_foldl plane height hx hy]
  by_cases hline : y < height
  · rw [if_pos hline]
    by_cases hinside : x < width
    · rw [if_pos hinside, if_pos ⟨hinside, hline⟩]
      rfl
    · rw [if_neg hinside, if_neg (by omega)]
      rfl
  · rw [if_neg hline, if_neg (by omega)]

theorem rowwise_slideRowLeft {width : Nat} (hleast : Scroll.columns ≤ width)
    (hwidth : width ≤ stride) :
    Rowwise (slideRowLeft width) fun x =>
      if x + Scroll.columns < width then some (x + Scroll.columns)
      else if x < width then none else some x where
  origin_lt x column hx horigin := by
    split at horigin
    · cases horigin
      omega
    · split at horigin
      · cases horigin
      · cases horigin
        exact hx
  pixel plane row x y hx hy := by
    have hcopy := plane.pixel_copySpan row Scroll.columns row 0 (width - Scroll.columns)
      hx hy (by omega)
    rw [Nat.add_zero, Nat.zero_add] at hcopy
    rw [slideRowLeft, pixel_darkenSpan _ _ _ _ hx hy (by omega), hcopy]
    by_cases hrow : y = row
    · subst hrow
      by_cases hmoved : x + Scroll.columns < width
      · rw [if_neg (by omega), if_pos (by omega), if_pos rfl, if_pos hmoved]
        simp [Nat.add_comm]
      -- the columns that nothing slides into are darkened afterwards
      · by_cases hinside : x < width
        · rw [if_pos (by omega), if_pos rfl, if_neg hmoved, if_pos hinside]
          rfl
        · rw [if_neg (by omega), if_neg (by omega), if_pos rfl, if_neg hmoved, if_neg hinside]
          rfl
    · rw [if_neg (by omega), if_neg (by omega), if_neg hrow]

theorem rowwise_slideRowRight {width : Nat} (hleast : Scroll.columns ≤ width)
    (hwidth : width ≤ stride) :
    Rowwise (slideRowRight width) fun x =>
      if x < Scroll.columns then none
      else if x < width then some (x - Scroll.columns) else some x where
  origin_lt x column hx horigin := by
    split at horigin
    · cases horigin
    · split at horigin
      · cases horigin
        omega
      · cases horigin
        exact hx
  pixel plane row x y hx hy := by
    have hcopy := plane.pixel_copySpan row 0 row Scroll.columns (width - Scroll.columns)
      hx hy (by omega)
    have hdark := (plane.copySpan (row * stride) (row * stride + Scroll.columns)
      (width - Scroll.columns)).pixel_darkenSpan row 0 Scroll.columns hx hy (by omega)
    rw [Nat.add_zero, Nat.zero_add] at hcopy
    rw [Nat.add_zero, Nat.zero_add] at hdark
    rw [slideRowRight, hdark, hcopy]
    by_cases hrow : y = row
    · subst hrow
      -- the first columns are darkened last, over what was copied from there
      by_cases hnew : x < Scroll.columns
      · rw [if_pos (by omega), if_pos rfl, if_pos hnew]
        rfl
      · by_cases hinside : x < width
        · rw [if_neg (by omega), if_pos (by omega), if_pos rfl, if_neg hnew, if_pos hinside]
          rfl
        · rw [if_neg (by omega), if_neg (by omega), if_pos rfl, if_neg hnew, if_neg hinside]
          rfl
    · rw [if_neg (by omega), if_neg (by omega), if_neg hrow]

/-! ## The three scrolls -/

variable (resolution : Resolution)

/-- From the lowest row upwards, no row is overwritten before it has been read. -/
theorem pixel_scrollDown (rows : Nat) (hx : x < stride) (hy : y < 64) :
    (plane.scrollDown resolution rows).pixel x y =
      if x < resolution.width ∧ y < resolution.height then
        if y < rows then 0 else plane.pixel x (y - rows)
      else plane.pixel x y := by
  have hwidth : resolution.width ≤ stride := resolution.width_le
  have hheight := resolution.height_le
  rw [scrollDown, pixel_darkenRows _ _ hwidth hx hy, pixel_copyRowsDown _ _ _ hwidth hx hy]
  by_cases hinside : x < resolution.width ∧ y < resolution.height
  · rw [if_pos hinside]
    by_cases hnew : y < rows
    · rw [if_pos (by omega), if_pos hnew]
    · have hcount : min rows resolution.height = rows := by omega
      rw [if_neg (by omega), if_pos (by omega), if_neg hnew, hcount]
  · rw [if_neg hinside, if_neg (by omega), if_neg (by omega)]

theorem pixel_scrollRight (hx : x < stride) (hy : y < 64) :
    (plane.scrollRight resolution).pixel x y =
      if x < resolution.width ∧ y < resolution.height then
        if x < Scroll.columns then 0 else plane.pixel (x - Scroll.columns) y
      else plane.pixel x y := by
  rw [scrollRight,
    (rowwise_slideRowRight resolution.columns_le resolution.width_le).pixel_foldl _ _ hx hy]
  by_cases hline : y < resolution.height
  · rw [if_pos hline]
    by_cases hnew : x < Scroll.columns
    · have hcolumn : x < resolution.width := Nat.lt_of_lt_of_le hnew resolution.columns_le
      rw [if_pos hnew, if_pos ⟨hcolumn, hline⟩, if_pos hnew]
      rfl
    · by_cases hcolumn : x < resolution.width
      · rw [if_neg hnew, if_pos hcolumn, if_pos ⟨hcolumn, hline⟩, if_neg hnew]
        rfl
      · rw [if_neg hnew, if_neg hcolumn, if_neg (by omega)]
        rfl
  · rw [if_neg hline, if_neg (by omega)]

theorem pixel_scrollLeft (hx : x < stride) (hy : y < 64) :
    (plane.scrollLeft resolution).pixel x y =
      if x < resolution.width ∧ y < resolution.height then
        if x + Scroll.columns < resolution.width then plane.pixel (x + Scroll.columns) y else 0
      else plane.pixel x y := by
  rw [scrollLeft,
    (rowwise_slideRowLeft resolution.columns_le resolution.width_le).pixel_foldl _ _ hx hy]
  by_cases hline : y < resolution.height
  · rw [if_pos hline]
    by_cases hmoved : x + Scroll.columns < resolution.width
    · rw [if_pos hmoved, if_pos ⟨by omega, hline⟩, if_pos hmoved]
      rfl
    · by_cases hcolumn : x < resolution.width
      · rw [if_neg hmoved, if_pos hcolumn, if_pos ⟨hcolumn, hline⟩, if_neg hmoved]
        rfl
      · rw [if_neg hmoved, if_neg hcolumn, if_neg (by omega)]
        rfl
  · rw [if_neg hline, if_neg (by omega)]

end Plane

end SuperChip
