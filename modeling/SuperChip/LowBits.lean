/-!
# The low bits of an integer

Registers keep eight bits of a result and the index register sixteen.  Both
functions reduce modulo a power of two, so a negative number has the low bits
of its two's complement.
-/

namespace SuperChip

/-- The low eight bits of an integer. -/
def lowByte (value : Int) : UInt8 := UInt8.ofNat (value % 256).toNat

/-- The low sixteen bits of an integer. -/
def lowWord (value : Int) : UInt16 := UInt16.ofNat (value % 65536).toNat

theorem toNat_lowByte (value : Int) : ((lowByte value).toNat : Int) = value % 256 := by
  simp only [lowByte, UInt8.toNat_ofNat']
  omega

theorem toNat_lowWord (value : Int) : ((lowWord value).toNat : Int) = value % 65536 := by
  simp only [lowWord, UInt16.toNat_ofNat']
  omega

end SuperChip
