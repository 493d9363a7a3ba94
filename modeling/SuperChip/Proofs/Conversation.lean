import SuperChip.Proofs.BreakpointRun
import SuperChip.Proofs.Renderings

/-!
# Conversations with the monitor, line by line

A session writes a prompt for each line that is typed and then what the line has
printed.  `Answers` says what a line prints and which monitor it leaves, and
`converse_cons` takes the turn of such a line; behind any number of lines a session
only ever appends to what has been written (`exists_converse_output`).  So what a
session writes in front of some line is found by taking the turns one by one.
-/

namespace SuperChip

/-- Some lines, each with a line feed behind it. -/
def linesText (lines : List String) : String := String.join (lines.map (· ++ "\n"))

/-- The picture as the lines that the monitor prints. -/
def Console.pictureLines {ρ : Type} (c : Console ρ) : List String :=
  c.machine.pictureRows.map (Picture.rowText "#" ".")

/-- The status as what the monitor prints of it, which is nothing where a counter has no
numeral. -/
def Console.statusLines {ρ : Type} (c : Console ρ) : List String :=
  c.statusText.toOption.toList

namespace Monitor

variable {ρ : Type}

theorem outputSince_append {m after : Monitor ρ} {lines : List String}
    (h : after.printed = m.printed ++ lines.toArray) :
    outputSince m.printed.size after = linesText lines := by
  have hnew : after.printed.toList.drop m.printed.size = lines := by
    rw [h, Array.toList_append, ← Array.length_toList, List.drop_left]
  rw [outputSince, hnew, linesText]

variable [Generator ρ]

/-- A line goes on from one monitor to another and prints some lines. -/
structure Answers (files : Files) (line : String) (m : Monitor ρ) (lines : List String)
    (after : Monitor ρ) : Prop where
  goesOn : execute files line m = .ok false after
  printed : after.printed = m.printed ++ lines.toArray

variable {files : Files} {line argument : String} {m after : Monitor ρ}

/-- The turn of a line in a session. -/
theorem converse_cons {lines : List String} (h : Answers files line m lines after)
    (interrupted : Bool) (output : String) (rest : List String) :
    converse files interrupted output m (line :: rest) =
      converse files interrupted (output ++ prompt ++ linesText lines) after rest := by
  rw [← outputSince_append h.printed]
  simp only [converse, h.goesOn, Bool.false_eq_true, if_false]

/-- What has been written stays in front of what follows. -/
theorem exists_converse_output (files : Files) (interrupted : Bool) (output : String)
    (m : Monitor ρ) (typed : List String) :
    ∃ closing, (converse files interrupted output m typed).output = output ++ closing := by
  induction typed generalizing output m with
  | nil =>
      simp only [converse]
      split
      · exact ⟨prompt ++ farewell, String.append_assoc⟩
      · split
        · exact ⟨_, String.append_assoc⟩
        · exact ⟨_, String.append_assoc⟩
  | cons line rest ih =>
      simp only [converse]
      split
      · split
        · exact ⟨_, String.append_assoc⟩
        · rename_i after _ _
          obtain ⟨closing, hclosing⟩ :=
            ih (output ++ prompt ++ outputSince m.printed.size after) after
          refine ⟨prompt ++ outputSince m.printed.size after ++ closing, ?_⟩
          rw [hclosing]
          simp only [String.append_assoc]
      · exact ⟨_, String.append_assoc⟩

/-! ## Breakpoints -/

theorem mem_withBreakpoint {address other : Int} {breakpoints : List Int} :
    other ∈ withBreakpoint address breakpoints ↔ other = address ∨ other ∈ breakpoints := by
  induction breakpoints with
  | nil => simp [withBreakpoint]
  | cons first rest ih =>
      unfold withBreakpoint
      split
      · simp
      · split
        · rename_i heq
          simp [heq]
        · simp only [List.mem_cons, ih]
          exact or_left_comm

/-- A line that sets a breakpoint at an address. -/
def SetsBreakpoint (machine : Machine) (line : String) (address : Int) : Prop :=
  ∃ argument, MonitorLine.read line = .command .bp argument ∧ trimmed argument ≠ "" ∧
    readAddress machine argument = .ok address

/-- What the monitor says of a breakpoint that is set. -/
def breakpointLine (address : Int) : String :=
  s!"Breakpoint set at {Hexadecimal.address address}"

theorem answers_of_setsBreakpoint {address : Int}
    (h : SetsBreakpoint m.console.machine line address) (files : Files) :
    Answers files line m [breakpointLine address] { m with
      breakpoints := withBreakpoint address m.breakpoints
      printed := m.printed ++ #[breakpointLine address] } := by
  obtain ⟨argument, hline, hsome, haddress⟩ := h
  refine ⟨?_, rfl⟩
  have hread : Monitor.address argument m = .ok address m := by
    have hmachine : readAddress m.machine argument = .ok address := haddress
    simp only [Monitor.address, bind, EStateM.bind, Attempt.get_eq, hmachine]
    rfl
  simp only [execute, hline, perform, goOn, setBreakpoint, if_neg hsome, bind, EStateM.bind, hread,
    Attempt.modify_eq]
  rfl

/-- Lines that set breakpoints set these and touch nothing else. -/
theorem exists_converse_placing {placing : List (String × Int)}
    (hplacing : ∀ entry ∈ placing, SetsBreakpoint m.console.machine entry.1 entry.2) (files : Files)
    (interrupted : Bool) (output : String) (rest : List String) :
    ∃ placed : Monitor ρ, placed.console = m.console ∧
      (∀ address, address ∈ placed.breakpoints ↔
        address ∈ m.breakpoints ∨ address ∈ placing.map Prod.snd) ∧
      converse files interrupted output m (placing.map Prod.fst ++ rest) =
        converse files interrupted
          (output ++ String.join (placing.map fun entry =>
            prompt ++ linesText [breakpointLine entry.2])) placed rest := by
  induction placing generalizing m output with
  | nil => exact ⟨m, rfl, by simp, by simp⟩
  | cons entry others ih =>
      have hentry := answers_of_setsBreakpoint (hplacing entry List.mem_cons_self) files
      have hothers : ∀ other ∈ others, SetsBreakpoint m.console.machine other.1 other.2 :=
        fun other hother => hplacing other (List.mem_cons_of_mem _ hother)
      -- the first breakpoint is set, and the others are set from there
      obtain ⟨placed, hconsole, hmem, hrest⟩ := @ih { m with
        breakpoints := withBreakpoint entry.2 m.breakpoints
        printed := m.printed ++ #[breakpointLine entry.2] } hothers
          (output ++ prompt ++ linesText [breakpointLine entry.2])
      refine ⟨placed, hconsole, ?_, ?_⟩
      · intro address
        rw [hmem, mem_withBreakpoint]
        simp only [List.map_cons, List.mem_cons]
        rw [or_assoc, or_left_comm]
      · rw [List.map_cons, List.cons_append, converse_cons hentry, hrest]
        simp [String.append_assoc]

/-! ## The picture and the status -/

theorem exists_answers_frame (files : Files)
    (hline : MonitorLine.read line = .command .frame argument) (m : Monitor ρ) :
    ∃ after, Answers files line m m.console.pictureLines after ∧ after.console = m.console :=
  ⟨_, ⟨execute_of_frame files hline m, rfl⟩, rfl⟩

/-- The turn of a line that asks for the status.  It ends the session where there is no
status, and then it prints nothing. -/
theorem exists_converse_status (files : Files)
    (hline : MonitorLine.read line = .command .status argument) (m : Monitor ρ)
    (interrupted : Bool) (output : String) (rest : List String) :
    ∃ closing, (converse files interrupted output m (line :: rest)).output =
      output ++ prompt ++ linesText m.console.statusLines ++ closing := by
  cases hstatus : m.console.statusText with
  | ok text =>
      have hexecute : execute files line m = .ok false { m with
          printed := m.printed ++ #[text] } := by
        simp only [execute, hline, perform, goOn, bind, EStateM.bind, Attempt.get_eq, hstatus]
        rfl
      have hanswers : Answers files line m m.console.statusLines { m with
          printed := m.printed ++ #[text] } := by
        refine ⟨hexecute, ?_⟩
        rw [Console.statusLines, hstatus]
        rfl
      rw [converse_cons hanswers]
      exact exists_converse_output files interrupted _ _ rest
  | error fault =>
      have hexecute : execute files line m = .error fault m := by
        simp only [execute, hline, perform, goOn, bind, EStateM.bind, Attempt.get_eq, hstatus]
        rfl
      -- a number without a numeral ends the session, and nothing more is shown
      have hnothing : outputSince m.printed.size m = linesText [] :=
        outputSince_append (by simp)
      refine ⟨"", ?_⟩
      rw [Console.statusLines, hstatus]
      simp only [converse, hexecute, hnothing]
      simp [Except.toOption]

end Monitor

end SuperChip
