import SuperChip.Attempt
import SuperChip.Machine.Step

/-!
# The engine

The engine is a machine together with its variant, its random source and a log
of the anomalies that its listener has heard of.  Only a strict engine reports,
and only to a listener; neither has an influence on the machine.
-/

namespace SuperChip

/-- A machine with everything that does not change while it runs, its random
source and the reports so far. -/
structure Engine (ρ : Type) where
  variant : Variant
  strict : Bool
  listening : Bool
  machine : Machine
  random : ρ
  /-- The reports, the last one at the end. -/
  reports : Array Report

namespace Engine

variable {ρ : Type}

/-- An engine that has loaded nothing yet. -/
def fresh (variant : Variant) (strict listening : Bool) (random : ρ) : Engine ρ :=
  ⟨variant, strict, listening, .fresh, random, #[]⟩

/-- The log after a step. -/
def hear (e : Engine ρ) (report : Option Report) : Array Report :=
  match report with
  | some report => if e.strict && e.listening then e.reports.push report else e.reports
  | none => e.reports

/-- Change the machine of an engine. -/
def onMachine (change : Machine → Machine) (e : Engine ρ) : Engine ρ :=
  { e with machine := change e.machine }

/-- Change the machine, unless the change has a fault. -/
def tryMachine (change : Machine → Except Fault Machine) : Attempt (Engine ρ) Unit := fun e =>
  match change e.machine with
  | .ok machine => .ok () { e with machine := machine }
  | .error fault => .error fault e

/-- Load a program. The random source and the reports stay as they are. -/
def restart (program : List UInt8) : Attempt (Engine ρ) Unit :=
  tryMachine fun m => m.restart program

/-- Write a block of bytes to memory, if it fits there. -/
def loadBlock (address : Int) (block : List UInt8) : Attempt (Engine ρ) Unit :=
  tryMachine fun m => m.loadBlock address block

/-- One step of the machine. What it reports is heard also if the step fails. -/
def step [Generator ρ] : Attempt (Engine ρ) Unit := fun e =>
  let (outcome, random) := e.machine.step e.variant e.random
  let after := { e with
    machine := outcome.machine, random := random, reports := e.hear outcome.report }
  match outcome.fault with
  | none => .ok () after
  | some fault => .error fault after

/-- One tick of the timers. -/
def tick : Attempt (Engine ρ) Unit := modify (onMachine Machine.tick)

end Engine

end SuperChip
