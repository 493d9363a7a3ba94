import SuperChip.Proofs.Scrolling

/-!
# How scrolls compose

Scrolls down add up, and a scroll down and a scroll to a side may be made in either order.
Two scrolls to opposite sides bring back all but the columns that the first one has lost.

## Strategy

A scroll to a side treats each row for itself: `Sideways` names the column from which each
place of the rectangle gets its pixel, if there is one.  What follows is about any such
work, so that left and right need no proofs of their own: it may be exchanged with a scroll
down, which treats each column for itself (`Sideways.scrollDown_comm`), and one after the
other takes the columns through both (`Sideways.comp`).
-/

namespace SuperChip

namespace Plane

variable (plane : Plane) (resolution : Resolution)

/-! ## Scrolls down -/

/-- Scrolls down add up; past the height, nothing is left to scroll. -/
theorem scrollDown_scrollDown (first second : Nat) :
    (plane.scrollDown resolution first).scrollDown resolution second =
      plane.scrollDown resolution (first + second) := by
  apply eq_of_pixel
  intro x y hx hy
  rw [pixel_scrollDown _ resolution second hx hy,
    pixel_scrollDown plane resolution (first + second) hx hy]
  by_cases hinside : x < resolution.width ∧ y < resolution.height
  · rw [if_pos hinside, if_pos hinside]
    by_cases hnew : y < second
    · rw [if_pos hnew, if_pos (by omega)]
    · have habove : x < resolution.width ∧ y - second < resolution.height := by omega
      rw [if_neg hnew, pixel_scrollDown plane resolution first hx (by omega), if_pos habove]
      by_cases hgone : y - second < first
      · rw [if_pos hgone, if_pos (by omega)]
      · rw [if_neg hgone, if_neg (by omega), Nat.sub_sub, Nat.add_comm second first]
  · rw [if_neg hinside, if_neg hinside, pixel_scrollDown plane resolution first hx hy,
      if_neg hinside]

/-! ## Scrolls to a side -/

/-- Work on the rows of the active rectangle.  A pixel of it comes from the column `origin`
of its row, or is dark where there is none; the margin stays. -/
structure Sideways (resolution : Resolution) (work : Plane → Plane) (origin : Nat → Option Nat) :
    Prop where
  origin_lt : ∀ x column, x < resolution.width → origin x = some column → column < resolution.width
  pixel : ∀ plane x y, x < stride → y < 64 →
    (work plane).pixel x y =
      if x < resolution.width ∧ y < resolution.height then
        ((origin x).map fun column => plane.pixel column y).getD 0
      else plane.pixel x y

theorem sideways_scrollLeft :
    Sideways resolution (scrollLeft · resolution) fun x =>
      if x + Scroll.columns < resolution.width then some (x + Scroll.columns) else none where
  origin_lt x column hx horigin := by
    split at horigin
    · cases horigin
      assumption
    · cases horigin
  pixel plane x y hx hy := by
    rw [pixel_scrollLeft plane resolution hx hy]
    by_cases hmoved : x + Scroll.columns < resolution.width
    · rw [if_pos hmoved, if_pos hmoved]
      rfl
    · rw [if_neg hmoved, if_neg hmoved]
      rfl

theorem sideways_scrollRight :
    Sideways resolution (scrollRight · resolution) fun x =>
      if x < Scroll.columns then none else some (x - Scroll.columns) where
  origin_lt x column hx horigin := by
    split at horigin
    · cases horigin
    · cases horigin
      omega
  pixel plane x y hx hy := by
    rw [pixel_scrollRight plane resolution hx hy]
    by_cases hnew : x < Scroll.columns
    · rw [if_pos hnew, if_pos hnew]
      rfl
    · rw [if_neg hnew, if_neg hnew]
      rfl

namespace Sideways

variable {resolution} {work later : Plane → Plane} {origin laterOrigin : Nat → Option Nat}

/-- What treats each row for itself may be done before or after a scroll down. -/
theorem scrollDown_comm (h : Sideways resolution work origin) (rows : Nat) :
    work (plane.scrollDown resolution rows) = (work plane).scrollDown resolution rows := by
  have hwidth : resolution.width ≤ stride := resolution.width_le
  apply eq_of_pixel
  intro x y hx hy
  rw [h.pixel _ x y hx hy, pixel_scrollDown (work plane) resolution rows hx hy]
  by_cases hinside : x < resolution.width ∧ y < resolution.height
  · have habove : x < resolution.width ∧ y - rows < resolution.height := by omega
    rw [if_pos hinside, if_pos hinside, h.pixel plane x (y - rows) hx (by omega), if_pos habove]
    cases horigin : origin x with
    | none => simp
    | some column =>
        have hcolumn := h.origin_lt x column hinside.1 horigin
        simp only [Option.map_some, Option.getD_some]
        rw [pixel_scrollDown plane resolution rows (by omega) hy, if_pos ⟨hcolumn, hinside.2⟩]
  · rw [if_neg hinside, if_neg hinside, pixel_scrollDown plane resolution rows hx hy,
      if_neg hinside, h.pixel plane x y hx hy, if_neg hinside]

/-- A pixel that has been moved twice comes from the column that the first move has brought
to the column of the second. -/
theorem comp (hlater : Sideways resolution later laterOrigin)
    (h : Sideways resolution work origin) :
    Sideways resolution (later ∘ work) fun x => (laterOrigin x).bind origin where
  origin_lt x column hx horigin := by
    obtain ⟨middle, hmiddle, hcolumn⟩ := Option.bind_eq_some_iff.mp horigin
    exact h.origin_lt middle column (hlater.origin_lt x middle hx hmiddle) hcolumn
  pixel plane x y hx hy := by
    have hwidth : resolution.width ≤ stride := resolution.width_le
    rw [Function.comp_apply, hlater.pixel _ x y hx hy]
    by_cases hinside : x < resolution.width ∧ y < resolution.height
    · rw [if_pos hinside, if_pos hinside]
      cases hmiddle : laterOrigin x with
      | none => rfl
      | some middle =>
          have hcolumn := hlater.origin_lt x middle hinside.1 hmiddle
          rw [Option.map_some, Option.getD_some, Option.bind_some,
            h.pixel plane middle y (by omega) hy, if_pos ⟨hcolumn, hinside.2⟩]
    · rw [if_neg hinside, if_neg hinside, h.pixel plane x y hx hy, if_neg hinside]

end Sideways

end Plane

/-! ## Scrolls of a machine -/

namespace Machine

variable (m : Machine)

theorem plane_repaint (plane : Plane) : (m.repaint plane).plane = plane := rfl

theorem resolution_repaint (plane : Plane) : (m.repaint plane).resolution = m.resolution := rfl

theorem repaint_repaint (first second : Plane) :
    (m.repaint first).repaint second = m.repaint second := rfl

theorem scrollDown_of_nonpos {rows : Int} (hrows : rows ≤ 0) : m.scrollDown rows = m :=
  if_pos hrows

theorem scrollDown_of_pos {rows : Int} (hrows : 0 < rows) :
    m.scrollDown rows = m.repaint (m.plane.scrollDown m.resolution rows.toNat) := by
  rw [scrollDown, if_neg (by omega)]

theorem resolution_scrollDown (rows : Int) : (m.scrollDown rows).resolution = m.resolution := by
  by_cases hrows : rows ≤ 0
  · rw [m.scrollDown_of_nonpos hrows]
  · rw [m.scrollDown_of_pos (by omega), resolution_repaint]

/-- Scrolls down add up, and so do their signals: none is given if there is no row. -/
theorem scrollDown_scrollDown (first second : Nat) :
    (m.scrollDown first).scrollDown second = m.scrollDown (first + second) := by
  cases first with
  | zero => rw [m.scrollDown_of_nonpos (by omega), Int.natCast_zero, Int.zero_add]
  | succ first =>
      cases second with
      | zero => rw [scrollDown_of_nonpos _ (by omega), Int.natCast_zero, Int.add_zero]
      | succ second =>
          have hrows : ((first + 1 : Nat) + (second + 1 : Nat) : Int).toNat =
              first + 1 + (second + 1) := by omega
          rw [m.scrollDown_of_pos (by omega), scrollDown_of_pos _ (by omega),
            m.scrollDown_of_pos (by omega), hrows, Int.toNat_natCast, Int.toNat_natCast,
            plane_repaint, resolution_repaint, repaint_repaint, Plane.scrollDown_scrollDown]

/-- A scroll down and other work on the rows of the picture may change places. -/
theorem scrollDown_repaint_comm {work : Plane → Plane} {origin : Nat → Option Nat}
    (h : Plane.Sideways m.resolution work origin) (rows : Int) :
    (m.scrollDown rows).repaint (work (m.scrollDown rows).plane) =
      (m.repaint (work m.plane)).scrollDown rows := by
  by_cases hrows : rows ≤ 0
  · rw [m.scrollDown_of_nonpos hrows, scrollDown_of_nonpos _ hrows]
  · have hpos : 0 < rows := by omega
    rw [m.scrollDown_of_pos hpos, scrollDown_of_pos _ hpos, plane_repaint, plane_repaint,
      resolution_repaint, repaint_repaint, repaint_repaint, h.scrollDown_comm]

theorem scrollDown_scrollLeft (rows : Int) :
    (m.scrollDown rows).scrollLeft = m.scrollLeft.scrollDown rows := by
  rw [scrollLeft, resolution_scrollDown]
  exact m.scrollDown_repaint_comm (Plane.sideways_scrollLeft m.resolution) rows

theorem scrollDown_scrollRight (rows : Int) :
    (m.scrollDown rows).scrollRight = m.scrollRight.scrollDown rows := by
  rw [scrollRight, resolution_scrollDown]
  exact m.scrollDown_repaint_comm (Plane.sideways_scrollRight m.resolution) rows

/-- Work that takes each pixel of some columns from where it is keeps these columns and
darkens the others. -/
theorem scrolled_sideways {work : Plane → Plane} {origin : Nat → Option Nat} {kept : Nat → Prop}
    [DecidablePred kept] (h : Plane.Sideways m.resolution work origin)
    (horigin : ∀ x, x < m.resolution.width → origin x = if kept x then some x else none) :
    m.Scrolled (fun x y => if kept x then m.plane.pixel x y else 0) (m.repaint (work m.plane)) := by
  apply scrolled_repaint
  intro x y hx hy
  rw [h.pixel m.plane x y hx hy]
  by_cases hinside : x < m.resolution.width ∧ y < m.resolution.height
  · rw [if_pos hinside, if_pos hinside, horigin x hinside.1]
    by_cases hkept : kept x
    · rw [if_pos hkept, if_pos hkept]
      rfl
    · rw [if_neg hkept, if_neg hkept]
      rfl
  · rw [if_neg hinside, if_neg hinside]

/-- A column is lost if it has moved over the right edge. -/
theorem scrolled_scrollRight_scrollLeft :
    m.Scrolled (fun x y => if x + 4 < m.resolution.width then m.plane.pixel x y else 0)
      m.scrollRight.scrollLeft := by
  have hback := (Plane.sideways_scrollLeft m.resolution).comp
    (Plane.sideways_scrollRight m.resolution)
  rw [scrollLeft, scrollRight, plane_repaint, resolution_repaint, repaint_repaint]
  refine m.scrolled_sideways hback fun x hx => ?_
  rw [Scroll.columns]
  by_cases hkept : x + 4 < m.resolution.width
  · rw [if_pos hkept, if_pos hkept, Option.bind_some, if_neg (by omega), Nat.add_sub_cancel]
  · rw [if_neg hkept, if_neg hkept, Option.bind_none]

/-- A column is lost if it has moved over the left edge. -/
theorem scrolled_scrollLeft_scrollRight :
    m.Scrolled (fun x y => if 4 ≤ x then m.plane.pixel x y else 0) m.scrollLeft.scrollRight := by
  have hback := (Plane.sideways_scrollRight m.resolution).comp
    (Plane.sideways_scrollLeft m.resolution)
  rw [scrollRight, scrollLeft, plane_repaint, resolution_repaint, repaint_repaint]
  refine m.scrolled_sideways hback fun x hx => ?_
  rw [Scroll.columns]
  by_cases hkept : 4 ≤ x
  · rw [if_neg (by omega), if_pos hkept, Option.bind_some, Nat.sub_add_cancel hkept, if_pos hx]
  · rw [if_pos (by omega), if_neg hkept, Option.bind_none]

/-- **How scrolls compose.**  Scrolls down by some rows each, or by none, come to one
scroll by all of them, also past the height of the picture.  A scroll down by any number,
of which a negative one scrolls nothing, may change places with a scroll to the left and
with one to the right.  A scroll to the right and one to the left bring everything back
but the four columns on the right, which are dark, and in the other order everything but
the four columns on the left. -/
theorem scrolls_compose :
    (∀ first second : Nat,
      (m.scrollDown first).scrollDown second = m.scrollDown (first + second)) ∧
    (∀ rows : Int, (m.scrollDown rows).scrollLeft = m.scrollLeft.scrollDown rows) ∧
    (∀ rows : Int, (m.scrollDown rows).scrollRight = m.scrollRight.scrollDown rows) ∧
    m.Scrolled (fun x y => if x + 4 < m.resolution.width then m.plane.pixel x y else 0)
      m.scrollRight.scrollLeft ∧
    m.Scrolled (fun x y => if 4 ≤ x then m.plane.pixel x y else 0) m.scrollLeft.scrollRight := by
  refine ⟨m.scrollDown_scrollDown, m.scrollDown_scrollLeft, m.scrollDown_scrollRight,
    m.scrolled_scrollRight_scrollLeft, m.scrolled_scrollLeft_scrollRight⟩

end Machine

end SuperChip
