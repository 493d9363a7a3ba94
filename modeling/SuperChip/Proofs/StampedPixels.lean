import SuperChip.Plane.Sprite
import SuperChip.Proofs.Indices

/-!
# The pixels of a sprite

A sprite is drawn bit by bit, and each bit that is set toggles one pixel of the
plane.  Seen from a pixel, the order does not matter: it is toggled if the
sprite covers it, which is to say that the bit found at its distance from the
position of the sprite is set (`Covers`).

## Strategy

* `toggleAll` toggles a pixel once for each time that its place is on the list
  (`pixel_toggleAll`).  If no place is there twice, a collision means that a
  pixel on the list was lit in the old plane (`snd_toggleAll`).
* The offsets of a sprite are the columns and rows of its bits that are set, each
  once (`mem_litOffsets`, `nodup_litOffsets`).
* A sprite is not larger than the active rectangle, so two offsets do not meet on
  it (`offset_eq_of_position_eq`), and the one that meets a given pixel is the
  distance of the pixel from the position (`position_eq_iff`).
-/

namespace SuperChip

/-! ## Toggling one place after the other -/

namespace Plane

variable (plane : Plane)

theorem snd_toggle {x y : Nat} (hx : x < stride) (hy : y < 64) :
    (plane.toggle (y * stride + x)).2 = (plane.pixel x y != 0) := by
  have inside : y * stride + x < 8192 := by
    simp only [stride] at hx ⊢
    omega
  simp [toggle, pixel, inside]

/-- Two toggles of a pixel are none. -/
theorem pixel_toggleAll (hit : Bool) {places : List Nat} (hplaces : ∀ place ∈ places, place < 8192)
    (x y : Nat) :
    (plane.toggleAll hit places).1.pixel x y =
      if places.count (y * stride + x) % 2 = 1 then plane.pixel x y ^^^ 1
      else plane.pixel x y := by
  induction places generalizing plane hit with
  | nil => rfl
  | cons place rest ih =>
      have hplace : place < 8192 := hplaces place List.mem_cons_self
      have hrest := ih (plane.toggle place).1 (hit || (plane.toggle place).2)
        fun other hother => hplaces other (List.mem_cons_of_mem place hother)
      have hcount := List.count_cons (a := y * stride + x) (b := place) (l := rest)
      rw [toggleAll, hrest, pixel_toggle plane hplace, hcount]
      -- a place that comes again toggles the pixel back
      by_cases hsame : place = y * stride + x
      · have htwice : plane.pixel x y ^^^ 1 ^^^ 1 = plane.pixel x y := by
          rw [UInt8.xor_assoc, UInt8.xor_self, UInt8.xor_zero]
        rw [if_pos hsame.symm, if_pos (beq_iff_eq.mpr hsame), htwice]
        by_cases hodd : rest.count (y * stride + x) % 2 = 1
        · rw [if_pos hodd, if_neg (by omega)]
        · rw [if_neg hodd, if_pos (by omega)]
      · rw [if_neg (Ne.symm hsame), if_neg (fun h => hsame (beq_iff_eq.mp h)), Nat.add_zero]

/-- Where no place is toggled twice, a collision is with a pixel of the old plane. -/
theorem snd_toggleAll (hit : Bool) {places : List Nat} (hplaces : ∀ place ∈ places, place < 8192)
    (hnodup : places.Nodup) :
    (plane.toggleAll hit places).2 = true ↔
      hit = true ∨
        ∃ x y, x < stride ∧ y < 64 ∧ y * stride + x ∈ places ∧ plane.pixel x y ≠ 0 := by
  induction places generalizing plane hit with
  | nil => simp [toggleAll]
  | cons place rest ih =>
      obtain ⟨hfresh, hrest⟩ := List.nodup_cons.mp hnodup
      have hplace : place < 8192 := hplaces place List.mem_cons_self
      obtain ⟨x₀, y₀, hx₀, hy₀, rfl⟩ : ∃ x y, x < stride ∧ y < 64 ∧ place = y * stride + x :=
        ⟨place % 128, place / 128, by simp only [stride]; omega, by omega,
          by simp only [stride]; omega⟩
      have hlit : (plane.toggle (y₀ * stride + x₀)).2 = true ↔ plane.pixel x₀ y₀ ≠ 0 := by
        rw [snd_toggle plane hx₀ hy₀, bne_iff_ne]
      -- the pixels still to come are those of the old plane
      have hold : ∀ x y, y * stride + x ∈ rest →
          (plane.toggle (y₀ * stride + x₀)).1.pixel x y = plane.pixel x y := by
        intro x y hmem
        rw [pixel_toggle plane hplace, if_neg]
        intro hsame
        exact hfresh (hsame ▸ hmem)
      rw [toggleAll, ih (plane.toggle (y₀ * stride + x₀)).1 _
        (fun other hother => hplaces other (List.mem_cons_of_mem _ hother)) hrest,
        Bool.or_eq_true, hlit]
      constructor
      · rintro ((hbefore | hfirst) | ⟨x, y, hx, hy, hmem, hpixel⟩)
        · exact .inl hbefore
        · exact .inr ⟨x₀, y₀, hx₀, hy₀, List.mem_cons_self, hfirst⟩
        · rw [hold x y hmem] at hpixel
          exact .inr ⟨x, y, hx, hy, List.mem_cons_of_mem _ hmem, hpixel⟩
      · rintro (hbefore | ⟨x, y, hx, hy, hmem, hpixel⟩)
        · exact .inl (.inl hbefore)
        · rcases List.mem_cons.mp hmem with hfirst | hmem
          · obtain ⟨rfl, rfl⟩ : x = x₀ ∧ y = y₀ := by
              simp only [stride] at hx hx₀ hfirst
              omega
            exact .inl (.inr hpixel)
          · rw [← hold x y hmem] at hpixel
            exact .inr ⟨x, y, hx, hy, hmem, hpixel⟩

end Plane

/-! ## The bits of a sprite -/

theorem mem_litColumns {byte : UInt8} {column : Nat} :
    column ∈ litColumns byte ↔ column < 8 ∧ byte.toNat.testBit (7 - column) = true := by
  simp [litColumns]

theorem nodup_litColumns (byte : UInt8) : (litColumns byte).Nodup :=
  List.nodup_range.sublist List.filter_sublist

/-- The columns and rows of one byte of a sprite. -/
private theorem mem_offsets_of_byte {rowBytes : Nat} (hrow : 0 < rowBytes) {index : Nat}
    {byte : UInt8} {column row : Nat} :
    (column, row) ∈ (litColumns byte).map (fun column =>
        (index % rowBytes * 8 + column, index / rowBytes)) ↔
      column < rowBytes * 8 ∧ row * rowBytes + column / 8 = index ∧
        byte.toNat.testBit (7 - column % 8) = true := by
  simp only [List.mem_map, mem_litColumns, Prod.mk.injEq]
  constructor
  · rintro ⟨bit, ⟨hbit, hset⟩, rfl, rfl⟩
    have hplace := Nat.mod_lt index hrow
    have hindex := Nat.div_add_mod' index rowBytes
    have hdiv : (index % rowBytes * 8 + bit) / 8 = index % rowBytes := by omega
    have hmod : (index % rowBytes * 8 + bit) % 8 = bit := by omega
    rw [hdiv, hmod]
    exact ⟨by omega, hindex, hset⟩
  · rintro ⟨hcolumn, rfl, hset⟩
    have hplace : column / 8 < rowBytes := by omega
    have hmod : (row * rowBytes + column / 8) % rowBytes = column / 8 := by
      rw [Nat.add_comm, Nat.add_mul_mod_self_right, Nat.mod_eq_of_lt hplace]
    have hdiv : (row * rowBytes + column / 8) / rowBytes = row := by
      rw [Nat.add_comm, Nat.add_mul_div_right _ _ hrow, Nat.div_eq_of_lt hplace, Nat.zero_add]
    refine ⟨column % 8, ⟨by omega, hset⟩, ?_, hdiv⟩
    rw [hmod]
    omega

/-- The offsets of a sprite are the columns and rows of its bits that are set. -/
theorem mem_litOffsets {rowBytes : Nat} (hrow : 0 < rowBytes) {index : Nat} {bytes : List UInt8}
    {column row : Nat} :
    (column, row) ∈ litOffsets rowBytes index bytes ↔
      column < rowBytes * 8 ∧ ∃ k byte, row * rowBytes + column / 8 = index + k ∧
        bytes[k]? = some byte ∧ byte.toNat.testBit (7 - column % 8) = true := by
  -- the first byte accounts for the first place, and the rest for those behind it
  induction bytes generalizing index with
  | nil => simp [litOffsets]
  | cons first rest ih =>
      rw [litOffsets, List.mem_append, mem_offsets_of_byte hrow, ih]
      constructor
      · rintro (⟨hcolumn, hplace, hset⟩ | ⟨hcolumn, k, byte, hplace, hbyte, hset⟩)
        · exact ⟨hcolumn, 0, first, hplace, rfl, hset⟩
        · exact ⟨hcolumn, k + 1, byte, by omega, hbyte, hset⟩
      · rintro ⟨hcolumn, k, byte, hplace, hbyte, hset⟩
        cases k with
        | zero =>
            cases hbyte
            exact .inl ⟨hcolumn, hplace, hset⟩
        | succ k => exact .inr ⟨hcolumn, k, byte, by omega, hbyte, hset⟩

theorem nodup_litOffsets {rowBytes : Nat} (hrow : 0 < rowBytes) (index : Nat)
    (bytes : List UInt8) : (litOffsets rowBytes index bytes).Nodup := by
  induction bytes generalizing index with
  | nil => exact List.nodup_nil
  | cons first rest ih =>
      rw [litOffsets, List.nodup_append]
      refine ⟨?_, ih (index + 1), ?_⟩
      · refine List.Pairwise.map _ ?_ (nodup_litColumns first)
        intro column other hne heq
        rw [Prod.mk.injEq] at heq
        omega
      · -- the byte of an offset is known from the offset
        rintro ⟨column, row⟩ hfirst other hrest rfl
        obtain ⟨-, hplace, -⟩ := (mem_offsets_of_byte hrow).mp hfirst
        obtain ⟨-, k, -, hlater, -⟩ := (mem_litOffsets hrow).mp hrest
        omega

namespace SpriteShape

/-- The number of columns of a sprite, eight for each byte of a row. -/
def columns (shape : SpriteShape) : Nat := shape.rowBytes * 8

/-- A sprite whose bytes start at an address has its bit at a column and a row set;
the highest bit of a byte is its first column. -/
def IsSet (shape : SpriteShape) (memory : Memory) (start : Int) (column row : Nat) : Prop :=
  column < shape.columns ∧ row < shape.rows ∧
    (memory.read (start + ↑(row * shape.rowBytes + column / 8))).toNat.testBit (7 - column % 8) =
      true

instance (shape : SpriteShape) (memory : Memory) (start : Int) (column row : Nat) :
    Decidable (shape.IsSet memory start column row) :=
  inferInstanceAs (Decidable (_ ∧ _ ∧ _))

/-- A sprite is not larger than the active rectangle, and it has columns. -/
structure FitsOn (shape : SpriteShape) (resolution : Resolution) : Prop where
  rowBytes_pos : 0 < shape.rowBytes
  columns_le : shape.columns ≤ resolution.width
  rows_le : shape.rows ≤ resolution.height

end SpriteShape

/-- The offsets of the bytes of a sprite in memory are where its bits are set. -/
theorem SpriteShape.mem_litOffsets_iff {shape : SpriteShape} (hrow : 0 < shape.rowBytes)
    (memory : Memory) (start : Int) {column row : Nat} :
    (column, row) ∈ litOffsets shape.rowBytes 0 (memory.readAll start shape.size) ↔
      shape.IsSet memory start column row := by
  -- the byte of a column and a row is one of the sprite if the row is
  have hinside : column < shape.rowBytes * 8 →
      (row * shape.rowBytes + column / 8 < shape.size ↔ row < shape.rows) := by
    intro hcolumn
    have hplace : column / 8 < shape.rowBytes := by omega
    rw [size]
    constructor
    · intro hlt
      have hle : shape.rowBytes * row < shape.rowBytes * shape.rows := by
        rw [Nat.mul_comm shape.rowBytes row]
        omega
      exact Nat.lt_of_mul_lt_mul_left hle
    · intro hlt
      calc row * shape.rowBytes + column / 8
          < row * shape.rowBytes + shape.rowBytes := by omega
        _ = shape.rowBytes * (row + 1) := by rw [Nat.mul_comm, Nat.mul_succ]
        _ ≤ shape.rowBytes * shape.rows := Nat.mul_le_mul_left _ hlt
  rw [mem_litOffsets hrow, IsSet, columns]
  constructor
  · rintro ⟨hcolumn, k, byte, hplace, hbyte, hset⟩
    obtain rfl : k = row * shape.rowBytes + column / 8 := by omega
    have hlt : row * shape.rowBytes + column / 8 < shape.size := by
      obtain ⟨hlength, -⟩ := List.getElem?_eq_some_iff.mp hbyte
      rwa [Memory.length_readAll] at hlength
    rw [Memory.getElem?_readAll memory start hlt] at hbyte
    cases hbyte
    exact ⟨hcolumn, (hinside hcolumn).mp hlt, hset⟩
  · rintro ⟨hcolumn, hlt, hset⟩
    refine ⟨hcolumn, row * shape.rowBytes + column / 8, _, by omega, ?_, hset⟩
    exact Memory.getElem?_readAll memory start ((hinside hcolumn).mpr hlt)

/-! ## Bits on the active rectangle -/

/-- How far a place lies behind an origin on a ring of some size. -/
def ringDistance (size origin place : Nat) : Nat := (((place : Int) - origin) % size).toNat

namespace Plane

variable {resolution : Resolution} {shape : SpriteShape} {x₀ y₀ : Nat}

theorem position_lt (resolution : Resolution) (x y : Nat) : position resolution x y < 8192 := by
  have hwidth := resolution.width_le
  have hheight := resolution.height_le
  have hcolumn := Nat.mod_lt x resolution.width_pos
  have hline := Nat.mod_lt y resolution.height_pos
  simp only [position, stride]
  omega

/-- The offset at which a pixel is met is its distance from the origin. -/
theorem position_eq_iff {column row x y : Nat} (hcolumn : column < resolution.width)
    (hrow : row < resolution.height) (hx : x < stride) :
    position resolution (x₀ + column) (y₀ + row) = y * stride + x ↔
      x < resolution.width ∧ y < resolution.height ∧
        column = ringDistance resolution.width x₀ x ∧
        row = ringDistance resolution.height y₀ y := by
  cases resolution <;>
    simp only [position, stride, ringDistance, Resolution.width, Resolution.height] at * <;>
    omega

/-- Two offsets of a sprite do not meet. -/
theorem offset_eq_of_position_eq {column row column' row' : Nat}
    (hcolumn : column < resolution.width) (hrow : row < resolution.height)
    (hcolumn' : column' < resolution.width) (hrow' : row' < resolution.height)
    (h : position resolution (x₀ + column) (y₀ + row) =
      position resolution (x₀ + column') (y₀ + row')) : column = column' ∧ row = row' := by
  cases resolution <;>
    simp only [position, stride, Resolution.width, Resolution.height] at * <;>
    omega

/-- A sprite drawn at a column and a row, with its bytes from an address on, has a bit
that is set on a pixel of the active rectangle.  Both axes are rings. -/
def Covers (resolution : Resolution) (shape : SpriteShape) (memory : Memory) (start : Int)
    (x₀ y₀ x y : Nat) : Prop :=
  x < resolution.width ∧ y < resolution.height ∧
    shape.IsSet memory start (ringDistance resolution.width x₀ x)
      (ringDistance resolution.height y₀ y)

instance (resolution : Resolution) (shape : SpriteShape) (memory : Memory) (start : Int)
    (x₀ y₀ x y : Nat) : Decidable (Covers resolution shape memory start x₀ y₀ x y) :=
  inferInstanceAs (Decidable (_ ∧ _ ∧ _))

/-- The places that a sprite toggles, one after the other. -/
def places (resolution : Resolution) (shape : SpriteShape) (memory : Memory) (start : Int)
    (x₀ y₀ : Nat) : List Nat :=
  (litOffsets shape.rowBytes 0 (memory.readAll start shape.size)).map fun offset =>
    position resolution (x₀ + offset.1) (y₀ + offset.2)

theorem stamp_eq (plane : Plane) (memory : Memory) (start : Int) :
    plane.stamp resolution x₀ y₀ shape.rowBytes (memory.readAll start shape.size) =
      plane.toggleAll false (places resolution shape memory start x₀ y₀) :=
  rfl

variable (memory : Memory) (start : Int)

theorem lt_of_mem_places {place : Nat} (h : place ∈ places resolution shape memory start x₀ y₀) :
    place < 8192 := by
  obtain ⟨offset, -, rfl⟩ := List.mem_map.mp h
  exact position_lt resolution _ _

theorem mem_places_iff (hfits : shape.FitsOn resolution) {x y : Nat}
    (hx : x < stride) :
    y * stride + x ∈ places resolution shape memory start x₀ y₀ ↔
      Covers resolution shape memory start x₀ y₀ x y := by
  obtain ⟨hrow, hcolumns, hrows⟩ := hfits
  simp only [places, List.mem_map, Prod.exists, SpriteShape.mem_litOffsets_iff hrow]
  constructor
  · rintro ⟨column, row, hset, hplace⟩
    rw [position_eq_iff (by have := hset.1; omega) (by have := hset.2.1; omega) hx] at hplace
    obtain ⟨hwidth, hheight, rfl, rfl⟩ := hplace
    exact ⟨hwidth, hheight, hset⟩
  · rintro ⟨hwidth, hheight, hset⟩
    refine ⟨_, _, hset, ?_⟩
    rw [position_eq_iff (by have := hset.1; omega) (by have := hset.2.1; omega) hx]
    exact ⟨hwidth, hheight, rfl, rfl⟩

theorem nodup_places (x₀ y₀ : Nat) (hfits : shape.FitsOn resolution) :
    (places resolution shape memory start x₀ y₀).Nodup := by
  obtain ⟨hrow, hcolumns, hrows⟩ := hfits
  rw [places, List.nodup_iff_pairwise_ne, List.pairwise_map]
  have hoffsets := nodup_litOffsets hrow 0 (memory.readAll start shape.size)
  refine List.Pairwise.imp_of_mem ?_ hoffsets
  rintro ⟨column, row⟩ ⟨column', row'⟩ hfirst hsecond hne heq
  have hset := (SpriteShape.mem_litOffsets_iff hrow memory start).mp hfirst
  have hset' := (SpriteShape.mem_litOffsets_iff hrow memory start).mp hsecond
  have hsame := offset_eq_of_position_eq (by have := hset.1; omega) (by have := hset.2.1; omega)
    (by have := hset'.1; omega) (by have := hset'.2.1; omega) heq
  exact hne (Prod.ext hsame.1 hsame.2)

/-- Drawing a sprite toggles the pixels that it covers and no others. -/
theorem pixel_stamp (plane : Plane) (x₀ y₀ : Nat) (hfits : shape.FitsOn resolution) {x y : Nat}
    (hx : x < stride) :
    (plane.stamp resolution x₀ y₀ shape.rowBytes (memory.readAll start shape.size)).1.pixel x y =
      if Covers resolution shape memory start x₀ y₀ x y then plane.pixel x y ^^^ 1
      else plane.pixel x y := by
  have hcount := (nodup_places memory start x₀ y₀ hfits).count (a := y * stride + x)
  rw [stamp_eq, pixel_toggleAll _ _ fun place => lt_of_mem_places memory start, hcount]
  by_cases hcovers : Covers resolution shape memory start x₀ y₀ x y
  · rw [if_pos ((mem_places_iff memory start hfits hx).mpr hcovers), if_pos rfl,
      if_pos hcovers]
  · rw [if_neg (fun hmem => hcovers ((mem_places_iff memory start hfits hx).mp hmem)),
      if_neg (by decide), if_neg hcovers]

/-- There is a collision if the sprite covers a pixel that was lit. -/
theorem snd_stamp (plane : Plane) (x₀ y₀ : Nat) (hfits : shape.FitsOn resolution) :
    (plane.stamp resolution x₀ y₀ shape.rowBytes (memory.readAll start shape.size)).2 = true ↔
      ∃ x y, Covers resolution shape memory start x₀ y₀ x y ∧ plane.pixel x y ≠ 0 := by
  rw [stamp_eq, snd_toggleAll _ _ (fun place => lt_of_mem_places memory start)
    (nodup_places memory start x₀ y₀ hfits)]
  simp only [Bool.false_eq_true, false_or]
  constructor
  · rintro ⟨x, y, hx, -, hmem, hpixel⟩
    exact ⟨x, y, (mem_places_iff memory start hfits hx).mp hmem, hpixel⟩
  · rintro ⟨x, y, hcovers, hpixel⟩
    have hx : x < stride := Nat.lt_of_lt_of_le hcovers.1 resolution.width_le
    have hy : y < 64 := Nat.lt_of_lt_of_le hcovers.2.1 resolution.height_le
    exact ⟨x, y, hx, hy, (mem_places_iff memory start hfits hx).mpr hcovers, hpixel⟩

end Plane

end SuperChip
