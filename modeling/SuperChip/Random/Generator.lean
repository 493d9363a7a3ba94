/-!
# Random sources

A random source is a state and a function that gives an integer and the next
state.  The machine keeps the low byte of each integer that it asks for and
asks once for each random instruction that it executes, so nothing else about a
source matters.
-/

namespace SuperChip

/-- The states of a random source. -/
class Generator (ρ : Type) where
  /-- The next integer and the state after it. -/
  next : ρ → Int × ρ

/-- The stream of integers of a function, from some place on. -/
structure Stream where
  value : Nat → Int
  position : Nat

instance : Generator Stream where
  next stream := (stream.value stream.position, { stream with position := stream.position + 1 })

/-- A source that gives the members of a list in turn and starts again behind
the last one; `upcoming` is what remains of the current round. -/
structure Cycle where
  members : List Int
  upcoming : List Int
  deriving DecidableEq, Repr

/-- A cycle before its first round. -/
def Cycle.ofList (members : List Int) : Cycle := ⟨members, members⟩

/-- The next member of a cycle; a cycle without members gives zeros. -/
def Cycle.next (cycle : Cycle) : Int × Cycle :=
  match cycle.upcoming with
  | value :: rest => (value, { cycle with upcoming := rest })
  | [] =>
    match cycle.members with
    | value :: rest => (value, { cycle with upcoming := rest })
    | [] => (0, cycle)

instance : Generator Cycle where
  next := Cycle.next

end SuperChip
