import SuperChip.Disassembler

/-!
# Disassembly listings

A listing walks over the bytes of a program two at a time, whatever they mean,
and shows each pair with its address as an opcode.  A single byte at the end is
shown as data.
-/

namespace SuperChip

/-- A row of a listing: an opcode or a last odd byte at an address. -/
inductive ListingRow where
  | opcode (address : Int) (op : Opcode)
  | byte (address : Int) (value : UInt8)
  deriving DecidableEq, Repr

namespace ListingRow

/-- The address of the first byte in a row. -/
def address : ListingRow → Int
  | opcode address _ => address
  | byte address _ => address

/-- What a row means: the mnemonic of an opcode, or the byte as data. -/
def text : ListingRow → String
  | opcode _ op => op.mnemonic
  | byte _ value => "db   0x" ++ Hexadecimal.upper 2 value.toNat

/-- The data column of a row: four digits, or two and two blanks. -/
def word : ListingRow → String
  | opcode _ op => op.word
  | byte _ value => Hexadecimal.upper 2 value.toNat ++ "  "

/-- A row as a line of the listing: its address, its bytes and their meaning. -/
def line (row : ListingRow) : String :=
  s!"{Hexadecimal.address row.address}: {row.word}  {row.text}"

end ListingRow

namespace Listing

/-- The rows for some bytes, the first of which stands at an address. -/
def rows (address : Int) : List UInt8 → List ListingRow
  | [] => []
  | [last] => [.byte address last]
  | first :: second :: rest => .opcode address (.ofBytes first second) :: rows (address + 2) rest

/-- The listing of some bytes, the first of which stands at an address. -/
def text (address : Int) (bytes : List UInt8) : String :=
  "\n".intercalate ((rows address bytes).map ListingRow.line)

end Listing

end SuperChip
