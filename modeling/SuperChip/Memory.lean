import SuperChip.Font
import SuperChip.Opcode
import SuperChip.Fault

/-!
# Memory

Memory is a ring of 4096 bytes: an address is any integer and means the cell
that it leaves modulo the size (`read`, `write`).  Two readers do not go round.
The fetch of an instruction and the reading of a sprite take an index, which
counts from the front, or from the end if it is negative, and which may miss
(`readIndex`); and a block of bytes is loaded only where it fits (`load`).
-/

namespace SuperChip

/-! ## Indices that may miss -/

/-- The place in `size` slots that an index means: counted from the front, or
from the end if the index is negative. A miss has the fault `miss`, unless the
index does not fit into sixty-four bits. -/
def indexIn (size : Nat) (miss : Fault) (index : Int) : Except Fault (Fin size) :=
  if front : 0 ≤ index ∧ index < size then .ok ⟨index.toNat, by omega⟩
  else if back : -(size : Int) ≤ index ∧ index < 0 then .ok ⟨(index + size).toNat, by omega⟩
  else if -0x8000000000000000 ≤ index ∧ index < 0x8000000000000000 then .error miss
  else .error .indexTooWide

/-! ## The ring of bytes -/

/-- The bytes of memory. -/
structure Memory where
  bytes : Vector UInt8 4096
  deriving DecidableEq

namespace Memory

/-- The number of cells. -/
def size : Nat := 4096

/-- The address at which programs start. -/
def programStart : Nat := 0x200

/-- Memory with nothing in it. -/
def zeroed : Memory := ⟨Vector.replicate 4096 0⟩

/-- The cell that an address means. -/
def cell (address : Int) : Fin 4096 := ⟨(address % 4096).toNat, by omega⟩

/-- The byte at an address. -/
def read (memory : Memory) (address : Int) : UInt8 := memory.bytes[cell address]

/-- Memory with another byte at an address. -/
def write (memory : Memory) (address : Int) (value : UInt8) : Memory :=
  ⟨memory.bytes.set (cell address) value⟩

/-- Memory after bytes are written one after the other from an address on. -/
def writeAll (memory : Memory) (address : Int) : List UInt8 → Memory
  | [] => memory
  | value :: rest => (memory.write address value).writeAll (address + 1) rest

/-- The bytes at consecutive addresses. -/
def readAll (memory : Memory) (address : Int) : Nat → List UInt8
  | 0 => []
  | count + 1 => memory.read address :: memory.readAll (address + 1) count

/-- The opcode at an address, whose second byte may stand at the beginning of memory. -/
def opcode (memory : Memory) (address : Int) : Opcode :=
  .ofBytes (memory.read address) (memory.read (address + 1))

/-- Memory after a block is loaded at an address where it fits. -/
def load (memory : Memory) (address : Int) (block : List UInt8) : Except Fault Memory :=
  if address < 0 ∨ (size : Int) < address + block.length then
    .error (.loadOutside address block.length)
  else .ok (memory.writeAll address block)

/-- The byte at an index, which may miss. -/
def readIndex (memory : Memory) (index : Int) : Except Fault UInt8 := do
  return memory.bytes[← indexIn 4096 .memoryIndex index]

/-- The bytes at consecutive indices. -/
def readIndices (memory : Memory) (index : Int) : Nat → Except Fault (List UInt8)
  | 0 => .ok []
  | count + 1 => do return (← memory.readIndex index) :: (← memory.readIndices (index + 1) count)

/-- The opcode at two consecutive indices. -/
def fetch (memory : Memory) (index : Int) : Except Fault Opcode := do
  return .ofBytes (← memory.readIndex index) (← memory.readIndex (index + 1))

/-- Memory as a program finds it: both fonts at the front, the program at its
base and zeros elsewhere. -/
def withProgram (program : List UInt8) : Memory :=
  ((zeroed.writeAll 0 Font.small).writeAll Font.bigBase Font.big).writeAll programStart program

/-! ## Reading what was written -/

@[simp] theorem read_write_self (memory : Memory) (address : Int) (value : UInt8) :
    (memory.write address value).read address = value := by
  simp [read, write]

/-- A byte is found again under every address of its cell, and no other cell
changes. -/
theorem read_write (memory : Memory) (written address : Int) (value : UInt8) :
    (memory.write written value).read address =
      if (address - written) % 4096 = 0 then value else memory.read address := by
  have same : (written % 4096).toNat = (address % 4096).toNat ↔ (address - written) % 4096 = 0 := by
    omega
  simp only [read, write, cell, Fin.getElem_fin, Vector.getElem_set, same]

end Memory

end SuperChip
