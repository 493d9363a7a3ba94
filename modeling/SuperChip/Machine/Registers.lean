import SuperChip.Machine.Basic
import SuperChip.Text.Hexadecimal

/-!
# The registers as text

The registers are shown four to a line, then the address registers, the timers
with the mode of the display and the key wait, and, unless the stack pointer is
zero, the return addresses below it.
-/

namespace SuperChip.Machine

/-- The name of a register in the status. -/
def registerLabel (x : Fin 16) : String := "V" ++ Hexadecimal.upper 1 x.val

/-- A register with its value. -/
def registerText (m : Machine) (x : Fin 16) : String :=
  s!"{registerLabel x} = {Hexadecimal.byte (m.v.get x)}"

/-- Four registers from one on. -/
def registerLine (m : Machine) (first : Nat) : String :=
  "  " ++ "  ".intercalate
    ((List.range 4).map fun k => m.registerText (Fin.ofNat 16 (first + k)))

/-- The register that a key is awaited for. -/
def waitText (m : Machine) : String :=
  if m.waiting then registerLabel m.awaitedRegister else "-"

/-- The return addresses below the stack pointer; a negative pointer counts from
the end of the stack. -/
def returnAddresses (m : Machine) : List Int :=
  m.stack.toList.take (if m.sp < 0 then m.sp + 16 else m.sp).toNat

/-- All registers, the timers and the stack as lines. -/
def registerLines (m : Machine) : List String :=
  [0, 4, 8, 12].map m.registerLine ++
    [s!"  I = {Hexadecimal.address m.i}  PC = {Hexadecimal.address m.pc}  SP = {m.sp}",
      s!"  DT = {m.delay}  ST = {m.sound}  HIRES = {if m.resolution = .high then 1 else 0}  " ++
        s!"WAIT = {m.waitText}"] ++
    (if m.sp = 0 then []
      else ["  STACK = " ++ " ".intercalate (m.returnAddresses.map Hexadecimal.address)])

/-- All registers, the timers and the stack as one text. -/
def registersText (m : Machine) : String := "\n".intercalate m.registerLines

end SuperChip.Machine
