import SuperChip.Machine.Execute
import SuperChip.Random.Generator

/-!
# One step of the machine

A step executes at most one instruction.  A machine that waits for a key only
looks for one, and a machine whose program counter has reached the end of
memory stays where it is.  Everything else fetches an opcode, moves the program
counter behind it and executes what the opcode means in the variant.

An anomaly is reported with the place where the program counter stood when it
was met: behind the opcode, if one was fetched.
-/

namespace SuperChip

/-- An anomaly with the program counter and the word of the opcode. -/
structure Report where
  anomaly : Anomaly
  pc : Int
  word : Nat
  deriving DecidableEq, Repr

/-- The end of a step. -/
structure Outcome where
  machine : Machine
  report : Option Report
  fault : Option Fault

/-- The outcome of an effect of an opcode, whose successor stands at `pc`. -/
def Effect.outcome (pc : Int) (word : Nat) : Effect → Outcome
  | .completed m => ⟨m, none, none⟩
  | .anomalous anomaly m => ⟨m, some ⟨anomaly, pc, word⟩, none⟩
  | .faulted fault m => ⟨m, none, some fault⟩

namespace Machine

variable {ρ : Type} [Generator ρ]

/-- The place behind the last one at which an opcode can stand. -/
def fetchLimit : Int := 4095

/-- What a machine does next. -/
inductive Next where
  | await
  /-- It stays at the end of memory. -/
  | overrun
  | opcode (op : Opcode)
  | unfetched (fault : Fault)

/-- What a machine does next. A wait for a key goes before everything else. -/
def next (m : Machine) : Next :=
  if m.waiting then .await
  else if fetchLimit ≤ m.pc then .overrun
  else match m.memory.fetch m.pc with
    | .ok op => .opcode op
    | .error fault => .unfetched fault

/-- Perform an opcode on a machine whose program counter is behind it. -/
def perform (variant : Variant) (random : ρ) (m : Machine) (op : Opcode) : Effect × ρ :=
  match Instruction.decodeIn variant op with
  | none => (.anomalous .unknownOpcode m, random)
  | some instruction =>
    if instruction.drawsRandom then
      let (value, random) := Generator.next random
      (m.execute variant value instruction, random)
    else (m.execute variant 0 instruction, random)

/-- One step, with the random source after it. -/
def step (variant : Variant) (random : ρ) (m : Machine) : Outcome × ρ :=
  match m.next with
  | .await => (⟨m.resolveWait, none, none⟩, random)
  | .overrun => (⟨m, some ⟨.pcOverrun, m.pc, 0⟩, none⟩, random)
  | .unfetched fault => (⟨m, none, some fault⟩, random)
  | .opcode op =>
    let pc := m.pc + 2
    let (effect, random) := perform variant random { m with pc := pc } op
    (effect.outcome pc op.toNat, random)

end Machine

end SuperChip
