import SuperChip.LowBits

/-!
# Opcodes

An opcode is a word of sixteen bits, read as four digits in base sixteen.  The
first digit chooses a family of instructions, the second and third mostly name
registers, and the digits behind the first also form the operands `n`, `kk` and
`nnn` of one, two and three digits.
-/

namespace SuperChip

/-- There is a first digit. -/
instance digit_neZero : @NeZero Nat Zero.ofOfNat0 16 := ⟨by decide⟩

/-- The four digits of an opcode. -/
structure Opcode where
  family : Fin 16
  x : Fin 16
  y : Fin 16
  n : Fin 16
  deriving DecidableEq, Repr

namespace Opcode

/-- The opcode whose two bytes stand one after the other in memory. -/
def ofBytes (first second : UInt8) : Opcode where
  family := Fin.ofNat 16 (first.toNat / 16)
  x := Fin.ofNat 16 first.toNat
  y := Fin.ofNat 16 (second.toNat / 16)
  n := Fin.ofNat 16 second.toNat

/-- The opcode that agrees with an integer in the low sixteen bits. -/
def ofInt (value : Int) : Opcode :=
  let word := (lowWord value).toNat
  ofBytes (UInt8.ofNat (word / 256)) (UInt8.ofNat word)

/-- The word as a number. -/
def toNat (op : Opcode) : Nat :=
  op.family.val * 4096 + op.x.val * 256 + op.y.val * 16 + op.n.val

/-- The operand of two digits. -/
def kk (op : Opcode) : UInt8 := UInt8.ofNat (op.y.val * 16 + op.n.val)

/-- The operand of three digits. -/
def nnn (op : Opcode) : Nat := op.x.val * 256 + op.y.val * 16 + op.n.val

theorem nnn_lt (op : Opcode) : op.nnn < 4096 := by
  have := op.x.isLt
  have := op.y.isLt
  have := op.n.isLt
  simp only [nnn]
  omega

theorem toNat_lt (op : Opcode) : op.toNat < 65536 := by
  have := op.family.isLt
  have := op.x.isLt
  have := op.y.isLt
  have := op.n.isLt
  simp only [toNat]
  omega

/-- A word has one opcode. -/
theorem eq_of_toNat_eq {op other : Opcode} (h : op.toNat = other.toNat) : op = other := by
  obtain ⟨family, x, y, n⟩ := op
  obtain ⟨family', x', y', n'⟩ := other
  simp only [toNat] at h
  have hfamily : family = family' := by omega
  have hx : x = x' := by omega
  have hy : y = y' := by omega
  have hn : n = n' := by omega
  rw [hfamily, hx, hy, hn]

/-- An opcode read from two bytes is the big-endian word that they form. -/
theorem toNat_ofBytes (first second : UInt8) :
    (ofBytes first second).toNat = first.toNat * 256 + second.toNat := by
  have := first.toNat_lt
  have := second.toNat_lt
  simp only [toNat, ofBytes, Fin.val_ofNat]
  omega

end Opcode

end SuperChip
