import SuperChip.Engine

/-!
# What a host does to an engine

A host restarts an engine with a program, lets it step, lets its timers tick,
loads blocks, writes single bytes, presses keys and takes the two signals away.
`Engine.perform` is the operation that belongs to each of these actions, and a
sequence of actions goes on after one that fails (`Engine.afterAll`).

## Strategy

Statements about sequences of actions compare machines, random sources, reports
and faults, and an engine has more parts than that.  `HostAction.outcome` says
what an action does to a machine and a random source alone, and
`Engine.after_eq` and `Engine.fault_eq` say that an engine does nothing else:
everything about one action follows from these two, and everything about a
sequence from one induction over it.
-/

namespace SuperChip

/-! ## The state and the fault that an attempt ends with -/

namespace Attempt

variable {σ α : Type}

/-- The state after an operation, whether it fails or not. -/
def after (operation : Attempt σ α) (state : σ) : σ :=
  match operation state with
  | .ok _ state => state
  | .error _ state => state

/-- The fault that an operation fails with. -/
def fault? (operation : Attempt σ α) (state : σ) : Option Fault :=
  match operation state with
  | .ok _ _ => none
  | .error fault _ => some fault

@[simp] theorem get_eq (state : σ) : (get : Attempt σ σ) state = .ok state state := rfl

@[simp] theorem modify_eq (change : σ → σ) (state : σ) :
    (modify change : Attempt σ Unit) state = .ok () (change state) := rfl

theorem after_eq_of_ok {operation : Attempt σ α} {state last : σ} {value : α}
    (h : operation state = .ok value last) : after operation state = last := by
  simp only [after, h]

/-- An operation without fault succeeds. -/
theorem ok_of_fault?_eq_none {operation : Attempt σ Unit} {state : σ}
    (h : fault? operation state = none) : operation state = .ok () (after operation state) := by
  unfold fault? at h
  unfold after
  cases hresult : operation state with
  | ok value state => rfl
  | error fault state => simp [hresult] at h

end Attempt

/-! ## Actions -/

/-- What a host may do to an engine. -/
inductive HostAction where
  | restart (program : List UInt8)
  | step
  | tick
  | loadBlock (address : Int) (block : List UInt8)
  /-- Write the low byte of an integer to an address. -/
  | writeByte (address value : Int)
  /-- Write any byte to a key, which is pressed unless the byte is zero. -/
  | writeKey (key : Fin 16) (value : UInt8)
  | takeRedraw
  | takeBeep

namespace Machine

/-- The machine after the host writes the low byte of an integer to an address. -/
def writeByte (m : Machine) (address value : Int) : Machine :=
  { m with memory := m.memory.write address (lowByte value) }

/-- The machine after the host writes a byte to a key. -/
def writeKey (m : Machine) (key : Fin 16) (value : UInt8) : Machine :=
  { m with keys := Slots.put m.keys key value }

/-- The machine after the host takes the signal of a changed picture. -/
def takeRedraw (m : Machine) : Machine := { m with redraw := false }

/-- The machine after the host takes the signal of a beep. -/
def takeBeep (m : Machine) : Machine := { m with beep := false }

theorem takeRedraw_of_not_redraw {m : Machine} (h : m.redraw = false) : m.takeRedraw = m := by
  rw [takeRedraw, ← h]

theorem takeBeep_of_not_beep {m : Machine} (h : m.beep = false) : m.takeBeep = m := by
  rw [takeBeep, ← h]

end Machine

namespace Engine

variable {ρ : Type} [Generator ρ]

/-- What an action does to an engine. -/
def perform : HostAction → Attempt (Engine ρ) Unit
  | .restart program => restart program
  | .step => step
  | .tick => tick
  | .loadBlock address block => loadBlock address block
  | .writeByte address value => modify (onMachine fun m => m.writeByte address value)
  | .writeKey key value => modify (onMachine fun m => m.writeKey key value)
  | .takeRedraw => modify (onMachine Machine.takeRedraw)
  | .takeBeep => modify (onMachine Machine.takeBeep)

/-- The engine after an action, whether it fails or not. -/
def after (e : Engine ρ) (action : HostAction) : Engine ρ := Attempt.after (perform action) e

/-- The fault of an action, if it fails. -/
def fault? (e : Engine ρ) (action : HostAction) : Option Fault :=
  Attempt.fault? (perform action) e

/-- The engine after some actions, performed one after the other whether they
fail or not. -/
def afterAll (e : Engine ρ) : List HostAction → Engine ρ
  | [] => e
  | action :: rest => (e.after action).afterAll rest

/-- How some actions end, one after the other. -/
def faults (e : Engine ρ) : List HostAction → List (Option Fault)
  | [] => []
  | action :: rest => e.fault? action :: (e.after action).faults rest

theorem afterAll_append (e : Engine ρ) (first second : List HostAction) :
    e.afterAll (first ++ second) = (e.afterAll first).afterAll second := by
  induction first generalizing e with
  | nil => rfl
  | cons action rest ih => exact ih (e.after action)

end Engine

/-! ## What an action does to the machine alone -/

namespace Outcome

/-- The outcome of a change that cannot fail. -/
def changed (m : Machine) : Outcome := ⟨m, none, none⟩

/-- The outcome of a change that leaves the machine alone if it fails. -/
def attempted (m : Machine) : Except Fault Machine → Outcome
  | .ok changed => ⟨changed, none, none⟩
  | .error fault => ⟨m, none, some fault⟩

end Outcome

/-- The outcome of an action for a machine, with the random source after it. -/
def HostAction.outcome {ρ : Type} [Generator ρ] (variant : Variant) (random : ρ) (m : Machine) :
    HostAction → Outcome × ρ
  | restart program => (.attempted m (m.restart program), random)
  | step => m.step variant random
  | tick => (.changed m.tick, random)
  | loadBlock address block => (.attempted m (m.loadBlock address block), random)
  | writeByte address value => (.changed (m.writeByte address value), random)
  | writeKey key value => (.changed (m.writeKey key value), random)
  | takeRedraw => (.changed m.takeRedraw, random)
  | takeBeep => (.changed m.takeBeep, random)

namespace Engine

variable {ρ : Type} [Generator ρ]

/-- The outcome of an action for the machine of an engine. -/
def outcome (e : Engine ρ) (action : HostAction) : Outcome × ρ :=
  action.outcome e.variant e.random e.machine

/-- The engine that has an outcome for its machine. -/
def settle (e : Engine ρ) (outcome : Outcome × ρ) : Engine ρ :=
  { e with
    machine := outcome.1.machine, random := outcome.2, reports := e.hear outcome.1.report }

private theorem perform_eq (e : Engine ρ) (action : HostAction) :
    perform action e =
      match (e.outcome action).1.fault with
      | none => .ok () (e.settle (e.outcome action))
      | some fault => .error fault (e.settle (e.outcome action)) := by
  -- restarting and loading may be refused, and a step may have a fault
  cases action with
  | restart program =>
      simp only [perform, restart, tryMachine, outcome, HostAction.outcome]
      cases e.machine.restart program <;> rfl
  | loadBlock address block =>
      simp only [perform, loadBlock, tryMachine, outcome, HostAction.outcome]
      cases e.machine.loadBlock address block <;> rfl
  | step => rfl
  | tick => rfl
  | writeByte address value => rfl
  | writeKey key value => rfl
  | takeRedraw => rfl
  | takeBeep => rfl

/-- An action does nothing to an engine but what it does to its machine. -/
theorem after_eq (e : Engine ρ) (action : HostAction) :
    e.after action = e.settle (e.outcome action) := by
  simp only [after, Attempt.after, perform_eq]
  cases (e.outcome action).1.fault <;> rfl

/-- An action fails if it fails for the machine. -/
theorem fault_eq (e : Engine ρ) (action : HostAction) :
    e.fault? action = (e.outcome action).1.fault := by
  simp only [fault?, Attempt.fault?, perform_eq]
  cases (e.outcome action).1.fault <;> rfl

@[simp] theorem after_machine (e : Engine ρ) (action : HostAction) :
    (e.after action).machine = (e.outcome action).1.machine := by
  rw [after_eq, settle]

@[simp] theorem after_random (e : Engine ρ) (action : HostAction) :
    (e.after action).random = (e.outcome action).2 := by
  rw [after_eq, settle]

@[simp] theorem after_variant (e : Engine ρ) (action : HostAction) :
    (e.after action).variant = e.variant := by
  rw [after_eq, settle]

@[simp] theorem afterAll_variant (e : Engine ρ) (actions : List HostAction) :
    (e.afterAll actions).variant = e.variant := by
  induction actions generalizing e with
  | nil => rfl
  | cons action rest ih => rw [afterAll, ih, after_variant]

@[simp] theorem after_strict (e : Engine ρ) (action : HostAction) :
    (e.after action).strict = e.strict := by
  rw [after_eq, settle]

@[simp] theorem after_listening (e : Engine ρ) (action : HostAction) :
    (e.after action).listening = e.listening := by
  rw [after_eq, settle]

@[simp] theorem after_reports (e : Engine ρ) (action : HostAction) :
    (e.after action).reports = e.hear (e.outcome action).1.report := by
  rw [after_eq, settle]

/-! ## Restarting -/

omit [Generator ρ] in
theorem restart_of_fits (e : Engine ρ) {program : List UInt8}
    (hfits : program.length ≤ programLimit) :
    restart program e = .ok () { e with machine := e.machine.restarted program } := by
  have hsize : ¬ programLimit < program.length := by omega
  simp only [restart, tryMachine, Machine.restart, if_neg hsize]

omit [Generator ρ] in
theorem restart_of_too_large (e : Engine ρ) {program : List UInt8}
    (hsize : programLimit < program.length) :
    restart program e = .error (.programTooLarge program.length) e := by
  simp only [restart, tryMachine, Machine.restart, if_pos hsize]

theorem after_restart (e : Engine ρ) {program : List UInt8}
    (hfits : program.length ≤ programLimit) :
    e.after (.restart program) = { e with machine := e.machine.restarted program } := by
  simp only [after, Attempt.after, perform, restart_of_fits e hfits]

/-! ## What is reported of a sequence of actions -/

/-- The anomalies that some actions meet, whether they are listened to or not. -/
def anomalies (e : Engine ρ) : List HostAction → List Report
  | [] => []
  | action :: rest => (e.outcome action).1.report.toList ++ (e.after action).anomalies rest

omit [Generator ρ] in
private theorem toList_hear (e : Engine ρ) (report : Option Report) :
    (e.hear report).toList =
      e.reports.toList ++ (if e.strict && e.listening then report.toList else []) := by
  cases report with
  | none => simp [hear]
  | some report =>
      simp only [hear, Option.toList_some]
      split <;> simp

/-- A strict engine with a listener reports the anomalies that it meets, and any
other engine reports nothing. -/
theorem toList_reports_afterAll (e : Engine ρ) (actions : List HostAction) :
    (e.afterAll actions).reports.toList =
      e.reports.toList ++ (if e.strict && e.listening then e.anomalies actions else []) := by
  induction actions generalizing e with
  | nil => simp [afterAll, anomalies]
  | cons action rest ih =>
      simp only [afterAll, anomalies]
      rw [ih, after_reports, after_strict, after_listening, toList_hear]
      by_cases hheard : (e.strict && e.listening) = true
      · simp [hheard]
      · simp [hheard]

end Engine

end SuperChip
