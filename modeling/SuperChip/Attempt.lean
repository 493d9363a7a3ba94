import SuperChip.Fault

/-!
# Operations that may fail

An operation of the host works on a state and ends with a value or a fault.  It
is not undone when it fails: the state that it has reached stays, and so do the
bytes, the steps and the lines that came before the fault.  An operation on a
part of a state is one on the whole (`onPart`), and what it leaves of the part
is left in the whole, whether it fails or not.
-/

namespace SuperChip

/-- An operation on a state that may fail; what it has changed before it fails
stays changed. -/
abbrev Attempt (σ α : Type) := EStateM Fault σ α

namespace Attempt

variable {σ τ α : Type}

/-- Perform an operation a number of times, up to its first failure. -/
def iterate (operation : Attempt σ Unit) : Nat → Attempt σ Unit
  | 0 => pure ()
  | n + 1 => do
    operation
    iterate operation n

/-- An operation on a part of the state. -/
def onPart (get : σ → τ) (set : τ → σ → σ) (operation : Attempt τ α) : Attempt σ α :=
  fun state =>
    match operation (get state) with
    | .ok value part => .ok value (set part state)
    | .error fault part => .error fault (set part state)

theorem onPart_ok {get : σ → τ} {set : τ → σ → σ} {operation : Attempt τ α} {state : σ} {value : α}
    {part : τ} (h : operation (get state) = .ok value part) :
    onPart get set operation state = .ok value (set part state) := by
  simp only [onPart, h]

theorem onPart_error {get : σ → τ} {set : τ → σ → σ} {operation : Attempt τ α} {state : σ}
    {fault : Fault} {part : τ} (h : operation (get state) = .error fault part) :
    onPart get set operation state = .error fault (set part state) := by
  simp only [onPart, h]

/-- The value of a computation without state. -/
def ofExcept : Except Fault α → Attempt σ α
  | .ok value => pure value
  | .error fault => throw fault

end Attempt

end SuperChip
