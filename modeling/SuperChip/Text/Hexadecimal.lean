/-!
# Numbers written in base sixteen

Three written forms occur.  An opcode or a data byte is written bare, with
upper-case digits and a fixed number of places (`upper`); a row of a memory
dump is written bare in lower case (`lower`); and an address or a register is
written with a mark, `0x`, behind its sign (`marked`).  A width counts every
character of the written form, so a negative address has one digit place less
than a positive one: `0x00a`, but `-0x01`.
-/

namespace SuperChip.Hexadecimal

/-- Zeros in front of `digits`, so that at least `width` characters result. -/
def zeroFill (width : Nat) (digits : List Char) : List Char :=
  List.replicate (width - digits.length) '0' ++ digits

/-- The lower-case digits of `n`, in at least `width` places. -/
def lower (width n : Nat) : String :=
  String.ofList (zeroFill width (Nat.toDigits 16 n))

/-- The upper-case digits of `n`, in at least `width` places. -/
def upper (width n : Nat) : String :=
  String.ofList (zeroFill width ((Nat.toDigits 16 n).map Char.toUpper))

/-- The sign of `n`, the mark `0x` and the lower-case digits of `n`, in at
least `width` characters altogether. -/
def marked (width : Nat) (n : Int) : String :=
  if n < 0 then "-0x" ++ lower (width - 3) n.natAbs else "0x" ++ lower (width - 2) n.natAbs

/-- An address has at least three digits, or two behind a sign. -/
def address (n : Int) : String := marked 5 n

/-- A register has two digits. -/
def byte (b : UInt8) : String := marked 4 b.toNat

/-! ## Small cases -/

example : address 0 = "0x000" := by decide +kernel
example : address 0x1388 = "0x1388" := by decide +kernel
example : address (-1) = "-0x01" := by decide +kernel
example : address (-0x1000) = "-0x1000" := by decide +kernel
example : upper 4 0xA2F = "0A2F" := by decide +kernel

end SuperChip.Hexadecimal
