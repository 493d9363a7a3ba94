import SuperChip.Console.Basic
import SuperChip.Machine.Registers

/-!
# The status of a console as text
-/

namespace SuperChip.Console

variable {ρ : Type}

/-- A switch as a word. -/
def switchText (on : Bool) : String := if on then "True" else "False"

/-- The keypad, a character a key. -/
def keypadText (c : Console ρ) : String :=
  String.ofList (c.keypad.toList.map fun pressed => if pressed then '1' else '.')

/-- The registers, the settings and the counters of a console. The counters have no
bound, so that there may be no numeral for one of them. -/
def statusText (c : Console ρ) : Except Fault String := do
  let frames ← numeralOf c.frames
  let steps ← numeralOf c.steps
  let beeps ← numeralOf c.beeps
  return "\n".intercalate
    ["=== Registers ===",
      c.machine.registersText,
      "",
      "=== System ===",
      s!"  Variant: {c.engine.variant.name}  Strict: {switchText c.engine.strict}",
      s!"  ROM: {c.programSize} bytes  (free {(programLimit : Int) - c.programSize})",
      s!"  Display: {c.machine.resolution.width}x{c.machine.resolution.height} " ++
        s!"(stride {Plane.stride})",
      s!"  Frames: {frames}  Steps: {steps}  Beeps: {beeps}",
      s!"  Keys: {c.keypadText}"]

end SuperChip.Console
