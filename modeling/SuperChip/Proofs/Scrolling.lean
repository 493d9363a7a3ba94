import SuperChip.Machine.Basic
import SuperChip.Proofs.ScrolledPixels

/-!
# What a scroll does to the machine

A scroll moves the picture and gives the signal for it.  `Machine.Scrolled` says what
that is for any of the three: each place of the active rectangle gets what arrives
there, the margin stays, and nothing of the machine changes but the plane and the
signal.  What arrives is a pixel of the plane before, some rows above or four columns
beside, or darkness where that would lie outside the rectangle; the plane before is
read as it was, although rows overlap.
-/

namespace SuperChip.Machine

/-- What a scroll makes of a machine, where a pixel arrives at each place of the active
rectangle. -/
structure Scrolled (m : Machine) (arriving : Nat → Nat → UInt8) (after : Machine) : Prop where
  picture : ∀ x y, x < m.resolution.width → y < m.resolution.height →
    after.plane.pixel x y = arriving x y
  margin : ∀ x y, x < Plane.stride → y < 64 →
    m.resolution.width ≤ x ∨ m.resolution.height ≤ y →
      after.plane.pixel x y = m.plane.pixel x y
  redraw : after.redraw = true
  others : after = { m with plane := after.plane, redraw := after.redraw }

variable {m : Machine} {arriving : Nat → Nat → UInt8}

/-- A plane whose pixels are known inside the active rectangle and outside is all that
a scroll needs. -/
theorem scrolled_repaint {plane : Plane}
    (hpixel : ∀ x y, x < Plane.stride → y < 64 →
      plane.pixel x y =
        if x < m.resolution.width ∧ y < m.resolution.height then arriving x y
        else m.plane.pixel x y) :
    m.Scrolled arriving (m.repaint plane) where
  picture x y hx hy := by
    have hcolumn : x < Plane.stride := Nat.lt_of_lt_of_le hx m.resolution.width_le
    have hline : y < 64 := Nat.lt_of_lt_of_le hy m.resolution.height_le
    exact (hpixel x y hcolumn hline).trans (if_pos ⟨hx, hy⟩)
  margin x y hx hy houtside := by
    have hinside : ¬ (x < m.resolution.width ∧ y < m.resolution.height) := by omega
    exact (hpixel x y hx hy).trans (if_neg hinside)
  redraw := rfl
  others := rfl

variable (m)

theorem scrolled_scrollDown {rows : Int} (hrows : 1 ≤ rows) :
    m.Scrolled (fun x y => if rows ≤ y then m.plane.pixel x (y - rows.toNat) else 0)
      (m.scrollDown rows) := by
  rw [scrollDown, if_neg (by omega)]
  apply scrolled_repaint
  intro x y hx hy
  rw [Plane.pixel_scrollDown m.plane m.resolution rows.toNat hx hy]
  by_cases habove : rows ≤ y
  · rw [if_pos habove, if_neg (by omega : ¬ y < rows.toNat)]
  · rw [if_neg habove, if_pos (by omega : y < rows.toNat)]

theorem scrolled_scrollRight :
    m.Scrolled (fun x y => if 4 ≤ x then m.plane.pixel (x - 4) y else 0) m.scrollRight := by
  apply scrolled_repaint
  intro x y hx hy
  rw [Plane.pixel_scrollRight m.plane m.resolution hx hy, Scroll.columns]
  by_cases hbeside : 4 ≤ x
  · rw [if_pos hbeside, if_neg (by omega : ¬ x < 4)]
  · rw [if_neg hbeside, if_pos (by omega : x < 4)]

theorem scrolled_scrollLeft :
    m.Scrolled (fun x y => if x + 4 < m.resolution.width then m.plane.pixel (x + 4) y else 0)
      m.scrollLeft := by
  apply scrolled_repaint
  intro x y hx hy
  exact Plane.pixel_scrollLeft m.plane m.resolution hx hy

/-- **Where the pixels go in a scroll.**  A scroll down by some rows brings to each place
of the active rectangle the pixel so many rows above, a scroll to the right the pixel
four columns to the left, and a scroll to the left the pixel four columns to the right;
where there is none in the rectangle the place turns dark, so that a scroll by at least
its height leaves no pixel lit.  The margin stays, and each of the scrolls signals that
the picture has changed.  A scroll down by no row or by a negative number of rows does
nothing at all. -/
theorem scroll_moves_pixels :
    (∀ rows : Int, 1 ≤ rows →
      m.Scrolled (fun x y => if rows ≤ y then m.plane.pixel x (y - rows.toNat) else 0)
        (m.scrollDown rows)) ∧
    (∀ rows : Int, rows ≤ 0 → m.scrollDown rows = m) ∧
    m.Scrolled (fun x y => if 4 ≤ x then m.plane.pixel (x - 4) y else 0) m.scrollRight ∧
    m.Scrolled (fun x y => if x + 4 < m.resolution.width then m.plane.pixel (x + 4) y else 0)
      m.scrollLeft :=
  ⟨fun _ hrows => m.scrolled_scrollDown hrows, fun _ hrows => if_pos hrows,
    m.scrolled_scrollRight, m.scrolled_scrollLeft⟩

/-- A pixel in the second column from the right and the second row from below, on the
small rectangle, with a pixel of the margin lit beside it. -/
theorem scroll_moves_pixels_at_corner :
    let m : Machine := { Machine.fresh with
      plane := ((Plane.blank.toggle (30 * Plane.stride + 62)).1.toggle
        (30 * Plane.stride + 66)).1 }
    (1 : Int) ≤ 1 ∧ (m.scrollDown 1).plane.pixel 62 31 = 1 ∧
      (1 : Int) ≤ 40 ∧ (m.scrollDown 40).plane.pixel 62 31 = 0 ∧
      (0 : Int) ≤ 0 ∧ m.scrollDown 0 = m ∧
      m.scrollRight.plane.pixel 62 30 = 0 ∧ m.scrollRight.plane.pixel 66 30 = 1 ∧
      m.scrollLeft.plane.pixel 58 30 = 1 ∧ m.scrollLeft.plane.pixel 62 30 = 0 := by
  intro m
  obtain ⟨hlit, hleft, hmargin⟩ : m.plane.pixel 62 30 = 1 ∧ m.plane.pixel 58 30 = 0 ∧
      m.plane.pixel 66 30 = 1 := by
    decide +kernel
  obtain ⟨hdown, hstill, hright, hleftwards⟩ := scroll_moves_pixels m
  refine ⟨by decide, ?_, by decide, ?_, by decide, hstill 0 (by decide), ?_, ?_, ?_, ?_⟩
  · rw [(hdown 1 (by decide)).picture 62 31 (by decide) (by decide)]
    exact hlit
  · exact (hdown 40 (by decide)).picture 62 31 (by decide) (by decide)
  · rw [hright.picture 62 30 (by decide) (by decide)]
    exact hleft
  · rw [hright.margin 66 30 (by decide) (by decide) (.inl (by decide))]
    exact hmargin
  · rw [hleftwards.picture 58 30 (by decide) (by decide)]
    exact hlit
  · exact hleftwards.picture 62 30 (by decide) (by decide)

end SuperChip.Machine
