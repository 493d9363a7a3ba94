import SuperChip.Proofs.QuotedWords
import SuperChip.Proofs.Reachable

/-!
# Loads that fail

A program that does not fit leaves a console without a program and changes nothing
else; a file that does not open changes nothing at all.  Without a program, a
console refuses every step and every frame as it stands, and the monitor says so
and leaves it alone.  In the monitor a load that fails also leaves the breakpoints
and the path of the last program, so that `reset` brings this program back.

## Strategy

`loadedBy?` names the program that a line makes the monitor load, if it finds one
that fits.  With such a program a line is a load (`execute_of_loadedBy`), and a
`load` without one changes no more than whether there is a program
(`after_of_refused`).  `Recorded` goes with a monitor from line to line and keeps the
program that was read when the path was recorded; that the two belong together is
an induction over the lines (`Recorded.programPath`), in which all other commands
are dealt with at once, since none of them touches the path (`keeps_execute`).
-/

namespace SuperChip

/-! ## Consoles -/

/-- What a host cannot ask for without a program. -/
def Request.NeedsProgram : Request → Prop
  | single move => move = .step
  | advanceFrame => True
  | run frames => 1 ≤ frames

namespace Console

variable {ρ : Type}

/-- The program in a file, if the file opens and its bytes fit. -/
def programIn? (files : Files) (path : String) : Option (List UInt8) :=
  match readFile files path with
  | .ok program => if program.length ≤ programLimit then some program else none
  | .error _ => none

theorem programIn?_eq_some {files : Files} {path : String} {program : List UInt8} :
    programIn? files path = some program ↔
      readFile files path = .ok program ∧ program.length ≤ programLimit := by
  unfold programIn?
  cases readFile files path with
  | error fault => simp
  | ok bytes =>
      by_cases hfits : bytes.length ≤ programLimit
      · simp only [hfits, if_true, Option.some.injEq, Except.ok.injEq]
        constructor
        · rintro rfl
          exact ⟨rfl, hfits⟩
        · exact And.left
      · simp only [hfits, if_false, Except.ok.injEq]
        constructor
        · nofun
        · rintro ⟨rfl, hlength⟩
          exact absurd hlength hfits

theorem loadFrom_of_ok {files : Files} {path : String} {program : List UInt8}
    (hfile : readFile files path = .ok program) (c : Console ρ) :
    loadFrom files path c = load program c := by
  rw [loadFrom, hfile]
  rfl

theorem loadFrom_of_error {files : Files} {path : String} {fault : Fault}
    (hfile : readFile files path = .error fault) (c : Console ρ) :
    loadFrom files path c = .error fault c := by
  rw [loadFrom, hfile]
  rfl

/-- Two consoles agree in all that a load sets. -/
structure SameState (c d : Console ρ) : Prop where
  variant : c.engine.variant = d.engine.variant
  machine : c.machine = d.machine
  keypad : c.keypad = d.keypad
  programSize : c.programSize = d.programSize
  frames : c.frames = d.frames
  steps : c.steps = d.steps
  beeps : c.beeps = d.beeps
  loaded : c.loaded = d.loaded

variable [Generator ρ]

theorem sameState_load {c d : Console ρ} (hvariant : c.engine.variant = d.engine.variant)
    (hflags : c.machine.flags = d.machine.flags) {program : List UInt8}
    (hfits : program.length ≤ programLimit) :
    SameState ((Move.load program).after c) ((Move.load program).after d) := by
  have hmachine : c.machine.restarted program = d.machine.restarted program := by
    rw [Machine.restarted, Machine.restarted, hflags]
  rw [Move.after_load_of_fits c hfits, Move.after_load_of_fits d hfits]
  exact ⟨hvariant, hmachine, rfl, rfl, rfl, rfl, rfl, rfl⟩

theorem perform_of_not_loaded {c : Console ρ} (hloaded : c.loaded = false) {request : Request}
    (hneeds : request.NeedsProgram) : request.perform c = .error .noProgram c := by
  cases request with
  | single move =>
      obtain rfl : move = .step := hneeds
      exact step_of_not_loaded hloaded
  | advanceFrame =>
      simp only [Request.perform, bind, EStateM.bind, advanceFrame_of_not_loaded hloaded]
  | run frames =>
      have hfrom : 1 ≤ frames := hneeds
      obtain ⟨rest, hrest⟩ : ∃ rest, frames.toNat = rest + 1 := ⟨frames.toNat - 1, by omega⟩
      simp only [Request.perform, run, hrest, runFrom, bind, EStateM.bind,
        advanceFrame_of_not_loaded hloaded]

theorem afterAll_of_not_loaded {c : Console ρ} (hloaded : c.loaded = false)
    {requests : List Request} (hneeds : ∀ request ∈ requests, request.NeedsProgram) :
    c.afterAll requests = c := by
  induction requests with
  | nil => rfl
  | cons request rest ih =>
      have hfirst : request.after c = c := by
        simp only [Request.after, Attempt.after,
          perform_of_not_loaded hloaded (hneeds request List.mem_cons_self)]
      rw [afterAll, hfirst]
      exact ih fun later hlater => hneeds later (List.mem_cons_of_mem _ hlater)

end Console

namespace Monitor

open Console

variable {ρ : Type} [Generator ρ]

/-! ## Commands that need a program -/

theorem execute_of_not_loaded {m : Monitor ρ} (hloaded : m.console.loaded = false)
    (files : Files) {line argument : String} {command : Command}
    (hline : MonitorLine.read line = .command command argument)
    (hcommand : command = .step ∨ command = .run ∨ command = .resume) :
    execute files line m = .ok false { m with
      printed := m.printed.push "No ROM loaded.  Use 'load <file>'." } := by
  -- all three commands ask first whether there is a program
  have hready : ready m = .ok false { m with
      printed := m.printed.push "No ROM loaded.  Use 'load <file>'." } := by
    simp only [ready, bind, EStateM.bind, Attempt.get_eq, hloaded]
    rfl
  have hstep : step argument m = .ok () { m with
      printed := m.printed.push "No ROM loaded.  Use 'load <file>'." } := by
    simp only [step, bind, EStateM.bind, hready]
    rfl
  have hrun : run argument m = .ok () { m with
      printed := m.printed.push "No ROM loaded.  Use 'load <file>'." } := by
    simp only [run, bind, EStateM.bind, hready]
    rfl
  rcases hcommand with rfl | rfl | rfl
  · simp only [execute, hline, perform, goOn, bind, EStateM.bind, hstep]
    rfl
  · simp only [execute, hline, perform, goOn, bind, EStateM.bind, hrun]
    rfl
  · simp only [execute, hline, perform, goOn, bind, EStateM.bind, hrun]
    rfl

/-! ## Loading -/

/-- The path and the program that a line makes the monitor load, if it finds a program
that fits. -/
def loadedBy? (files : Files) (m : Monitor ρ) (line : String) :
    Option (String × List UInt8) :=
  (m.requestedPath? line).bind fun path =>
    (programIn? files path).map fun program => (path, program)

/-- A `load` that finds no program that fits: its words do not split, there are none,
or the file they name does not open or is too large. -/
def Refused (files : Files) (line : String) : Prop :=
  ∃ argument, MonitorLine.read line = .command .load argument ∧
    ∀ path rest, ShellWords.split argument = .ok (path :: rest) → programIn? files path = none

theorem loadPath_of_program {files : Files} {path : String} {program : List UInt8}
    (hfile : readFile files path = .ok program) (hfits : program.length ≤ programLimit)
    (m : Monitor ρ) :
    loadPath files path m = .ok () { m with
      console := (Move.load program).after m.console, programPath := some path
      printed := m.printed.push
        s!"Loaded {program.length} bytes from '{path}' at {Hexadecimal.address 0x200}" } := by
  have hload : loadFrom files path m.console = .ok () ((Move.load program).after m.console) := by
    rw [loadFrom_of_ok hfile, load_of_fits m.console hfits, Move.after_load_of_fits _ hfits]
  rw [loadPath, hload, Move.after_load_of_fits _ hfits]
  rfl

theorem loadPath_of_fits {files : Files} {path : String} {program : List UInt8}
    (hprogram : programIn? files path = some program) (m : Monitor ρ) :
    ∃ printed, loadPath files path m = .ok () { m with
      console := (Move.load program).after m.console, programPath := some path
      printed := printed } := by
  obtain ⟨hfile, hfits⟩ := programIn?_eq_some.mp hprogram
  exact ⟨_, loadPath_of_program hfile hfits m⟩

omit [Generator ρ] in
theorem loadPath_of_too_large {files : Files} {path : String} {program : List UInt8}
    (hfile : readFile files path = .ok program) (hsize : programLimit < program.length)
    (m : Monitor ρ) :
    loadPath files path m = .ok () { m with
      console := { m.console with loaded := false }
      printed := m.printed.push s!"Error: {(Fault.programTooLarge program.length).message}" } := by
  rw [loadPath, loadFrom_of_ok hfile, load_of_too_large m.console hsize]
  rfl

omit [Generator ρ] in
theorem loadPath_of_unreadable {files : Files} {path : String} {cause : FolderError}
    (hfile : readFile files path = .error (.file cause)) (m : Monitor ρ) :
    loadPath files path m = .ok () { m with
      printed := m.printed.push s!"Error reading '{path}': {(Fault.file cause).message}" } := by
  rw [loadPath, loadFrom_of_error hfile]
  rfl

omit [Generator ρ] in
theorem loadPath_of_null {files : Files} {path : String}
    (hfile : readFile files path = .error .nullInPath) (m : Monitor ρ) :
    loadPath files path m = .error .nullInPath m := by
  rw [loadPath, loadFrom_of_error hfile]

omit [Generator ρ] in
/-- Without a program that fits, there is at most no program afterwards. -/
theorem after_loadPath_of_refused {files : Files} {path : String}
    (hprogram : programIn? files path = none) (m : Monitor ρ) :
    ∃ loaded printed, Attempt.after (loadPath files path) m = { m with
      console := { m.console with loaded := loaded }, printed := printed } ∧
      (loaded = m.console.loaded ∨ loaded = false) := by
  cases hfile : readFile files path with
  | error fault =>
      refine ⟨m.console.loaded, ?_⟩
      unfold Attempt.after loadPath
      rw [loadFrom_of_error hfile]
      cases fault with
      | programTooLarge size => exact ⟨_, rfl, .inl rfl⟩
      | file cause => exact ⟨_, rfl, .inl rfl⟩
      | _ => exact ⟨m.printed, rfl, .inl rfl⟩
  | ok program =>
      -- a file that opens is refused for its size only
      have hsize : programLimit < program.length := by
        refine Nat.lt_of_not_le fun hfits => ?_
        rw [programIn?_eq_some.mpr ⟨hfile, hfits⟩] at hprogram
        cases hprogram
      refine ⟨false, ?_⟩
      unfold Attempt.after
      rw [loadPath_of_too_large hfile hsize]
      exact ⟨_, rfl, .inr rfl⟩

omit [Generator ρ] in
theorem load_eq_loadPath {argument path : String} {rest : List String}
    (hwords : ShellWords.split argument = .ok (path :: rest)) (files : Files) (m : Monitor ρ) :
    load files argument m = loadPath files path m := by
  simp only [load, splitWords, hwords]
  rfl

omit [Generator ρ] in
/-- The command `reset` loads the recorded path. -/
theorem reset_eq_loadPath {m : Monitor ρ} {path : String} (hpath : m.programPath = some path)
    (files : Files) : reset files m = loadPath files path m := by
  simp only [reset, bind, EStateM.bind, Attempt.get_eq, hpath]
  exact load_eq_loadPath (ShellWords.split_quote path) files m

/-- A line that makes the monitor open a path does no more than load it. -/
theorem execute_of_requested {m : Monitor ρ} {line path : String}
    (h : m.requestedPath? line = some path) (files : Files) :
    execute files line m = goOn (loadPath files path) m := by
  unfold requestedPath? at h
  unfold execute
  split at h
  · rename_i argument hline
    simp only [hline, perform, goOn, bind, EStateM.bind]
    cases hwords : ShellWords.split argument with
    | error cause => simp [hwords, Except.toOption] at h
    | ok words =>
        cases words with
        | nil => simp [hwords, Except.toOption] at h
        | cons first rest =>
            obtain rfl : first = path := by simpa [hwords, Except.toOption] using h
            rw [load_eq_loadPath hwords]
  · rename_i argument hline
    simp only [hline, perform, goOn, bind, EStateM.bind, reset_eq_loadPath h]
  · cases h

theorem execute_of_loadedBy {files : Files} {m : Monitor ρ} {line path : String}
    {program : List UInt8} (h : loadedBy? files m line = some (path, program)) :
    ∃ printed, execute files line m = .ok false { m with
      console := (Move.load program).after m.console, programPath := some path
      printed := printed } := by
  obtain ⟨requested, hrequested, hprogram⟩ := Option.bind_eq_some_iff.mp h
  obtain ⟨found, hfound, hpair⟩ := Option.map_eq_some_iff.mp hprogram
  cases hpair
  obtain ⟨printed, hload⟩ := loadPath_of_fits hfound m
  refine ⟨printed, ?_⟩
  rw [execute_of_requested hrequested]
  simp only [goOn, bind, EStateM.bind, hload]
  rfl

omit [Generator ρ] in
theorem after_goOn (operation : Attempt (Monitor ρ) Unit) (m : Monitor ρ) :
    Attempt.after (goOn operation) m = Attempt.after operation m := by
  simp only [Attempt.after, goOn, bind, EStateM.bind]
  cases operation m <;> rfl

theorem after_of_refused {files : Files} {line : String} (h : Refused files line)
    (m : Monitor ρ) :
    ∃ loaded printed, Attempt.after (execute files line) m = { m with
      console := { m.console with loaded := loaded }, printed := printed } ∧
      (loaded = m.console.loaded ∨ loaded = false) := by
  obtain ⟨argument, hline, hrefused⟩ := h
  have hexecute : execute files line m = goOn (load files argument) m := by
    simp only [execute, hline, perform]
  have hafter : Attempt.after (execute files line) m = Attempt.after (load files argument) m := by
    rw [← after_goOn, Attempt.after, Attempt.after, hexecute]
  rw [hafter]
  -- the line may not split, may hold no word, or name a file that is refused
  cases hwords : ShellWords.split argument with
  | error cause =>
      refine ⟨m.console.loaded, m.printed, ?_, .inl rfl⟩
      simp only [Attempt.after, load, splitWords, hwords]
      rfl
  | ok words =>
      cases words with
      | nil =>
          refine ⟨m.console.loaded, m.printed.push "Usage: load <file>", ?_, .inl rfl⟩
          simp only [Attempt.after, load, splitWords, hwords]
          rfl
      | cons path rest =>
          have hload := load_eq_loadPath hwords files m
          obtain ⟨loaded, printed, hpath, hloaded⟩ :=
            after_loadPath_of_refused (hrefused path rest hwords) m
          refine ⟨loaded, printed, ?_, hloaded⟩
          rw [← hpath, Attempt.after, Attempt.after, hload]

/-! ## The recorded path -/

/-- Monitors that lines lead to, with the path that they record and the program that
was read from it then. -/
inductive Recorded : Monitor ρ → Option (String × List UInt8) → Prop
  | observing (console : Console ρ) : Recorded (observing console) none
  /-- A monitor may start with a program that has been loaded before. -/
  | opened {files : Files} {path : String} {program : List UInt8}
      (hprogram : programIn? files path = some program) (console : Console ρ) :
      Recorded { observing ((Move.load program).after console) with programPath := some path }
        (some (path, program))
  | line {m : Monitor ρ} {record : Option (String × List UInt8)} (hm : Recorded m record)
      (files : Files) (line : String) :
      Recorded (Attempt.after (execute files line) m) ((loadedBy? files m line).or record)

theorem invariant_programPath (path : Option String) :
    Invariant fun m : Monitor ρ => m.programPath = path where
  output _ _ h := h
  breakpoints _ _ h := h
  move _ _ h := h
  writeByte _ _ _ h := h

theorem programPath_of_requested_eq_none (files : Files) {m : Monitor ρ} {line : String}
    (h : m.requestedPath? line = none) :
    (Attempt.after (execute files line) m).programPath = m.programPath := by
  unfold requestedPath? at h
  -- only `load` and `reset` may change the path, and neither names one here
  split at h
  · rename_i argument hline
    have hrefused : Refused files line := by
      refine ⟨argument, hline, ?_⟩
      intro path rest hwords
      simp [hwords, Except.toOption] at h
    obtain ⟨loaded, printed, hafter, -⟩ := after_of_refused hrefused m
    rw [hafter]
  · rename_i argument hline
    simp only [Attempt.after, execute, hline, perform, goOn, reset, bind, EStateM.bind,
      Attempt.get_eq, h]
    exact h
  · rename_i hload hreset
    refine keeps_execute (invariant_programPath m.programPath) files line ?_ m rfl
    rintro command argument hline (rfl | rfl)
    · exact absurd hline (hload argument)
    · exact absurd hline (hreset argument)

/-- A line that loads no program leaves the recorded path. -/
theorem programPath_of_loadedBy_eq_none {files : Files} {m : Monitor ρ} {line : String}
    (h : loadedBy? files m line = none) :
    (Attempt.after (execute files line) m).programPath = m.programPath := by
  cases hrequested : m.requestedPath? line with
  | some path =>
      have hprogram : programIn? files path = none := by
        simpa [loadedBy?, hrequested] using h
      obtain ⟨loaded, printed, hpath, -⟩ := after_loadPath_of_refused hprogram m
      have hafter : Attempt.after (execute files line) m =
          Attempt.after (loadPath files path) m := by
        rw [← after_goOn, Attempt.after, Attempt.after, execute_of_requested hrequested]
      rw [hafter, hpath]
  | none => exact programPath_of_requested_eq_none files hrequested

theorem Recorded.spec {m : Monitor ρ} {record : Option (String × List UInt8)}
    (hm : Recorded m record) :
    m.programPath = record.map Prod.fst ∧
      ∀ path program, record = some (path, program) → program.length ≤ programLimit := by
  -- path and program change together, by a line that loads, or not at all
  induction hm with
  | observing console => exact ⟨rfl, nofun⟩
  | opened hprogram console =>
      refine ⟨rfl, ?_⟩
      rintro _ _ ⟨⟩
      exact (programIn?_eq_some.mp hprogram).2
  | @line m record hm files line ih =>
      cases hloaded : loadedBy? files m line with
      | none =>
          rw [programPath_of_loadedBy_eq_none hloaded]
          exact ih
      | some entry =>
          obtain ⟨path, program⟩ := entry
          obtain ⟨printed, hexecute⟩ := execute_of_loadedBy hloaded
          obtain ⟨found, -, hprogram⟩ := Option.bind_eq_some_iff.mp hloaded
          obtain ⟨bytes, hbytes, hpair⟩ := Option.map_eq_some_iff.mp hprogram
          cases hpair
          refine ⟨?_, ?_⟩
          · simp only [Attempt.after, hexecute]
            rfl
          · rintro _ _ ⟨⟩
            exact (programIn?_eq_some.mp hbytes).2

/-! ## Sequences of lines -/

/-- The monitor after some lines, each with the files that it finds. -/
def afterLines (m : Monitor ρ) : List (Files × String) → Monitor ρ
  | [] => m
  | (files, line) :: rest => (Attempt.after (execute files line) m).afterLines rest

theorem afterLines_of_refused {lines : List (Files × String)}
    (hlines : ∀ entry ∈ lines, Refused entry.1 entry.2) (m : Monitor ρ) :
    ∃ loaded printed, m.afterLines lines = { m with
      console := { m.console with loaded := loaded }, printed := printed } ∧
      (loaded = m.console.loaded ∨ loaded = false) := by
  induction lines generalizing m with
  | nil => exact ⟨m.console.loaded, m.printed, rfl, .inl rfl⟩
  | cons entry rest ih =>
      obtain ⟨loaded, printed, hfirst, hloaded⟩ :=
        after_of_refused (hlines entry List.mem_cons_self) m
      obtain ⟨loaded', printed', hrest, hloaded'⟩ :=
        ih (fun later hlater => hlines later (List.mem_cons_of_mem _ hlater))
          (Attempt.after (execute entry.1 entry.2) m)
      refine ⟨loaded', printed', ?_, ?_⟩
      · show (Attempt.after (execute entry.1 entry.2) m).afterLines rest = _
        rw [hrest, hfirst]
      · rw [hfirst] at hloaded'
        -- a later refusal may take the program away, but never gives one
        rcases hloaded' with hsame | hnone
        · rw [hsame]
          exact hloaded
        · exact .inr hnone

/-- **A load that fails is contained.**  A program of more than 3584 bytes is refused,
and then there is no program and all else is as before; a file that does not open
changes nothing.  While there is no program, every step, frame and run of frames is
refused and changes nothing, however often they are tried, and the monitor only says
so.  After any `load` lines that are refused the monitor has the same breakpoints and
the same path, and at most no program; and if it has a path, and its file holds what
was read when the path was recorded, `reset` loads this program: the console is then
in the state to which loading the file leads from any console with the same variant
and the same flags. -/
theorem failed_loads_contained {m : Monitor ρ} {record : Option (String × List UInt8)}
    (hm : Recorded m record) :
    (∀ program, 3584 < program.length →
      Console.load program m.console =
        .error (.programTooLarge program.length) { m.console with loaded := false }) ∧
    (∀ files path fault, readFile files path = .error fault →
      loadFrom files path m.console = .error fault m.console) ∧
    (m.console.loaded = false →
      (∀ requests, (∀ request ∈ requests, request.NeedsProgram) →
        m.console.afterAll requests = m.console ∧
        ∀ request ∈ requests, request.perform m.console = .error .noProgram m.console) ∧
      ∀ files line command argument, MonitorLine.read line = .command command argument →
        command = .step ∨ command = .run ∨ command = .resume →
        execute files line m = .ok false { m with
          printed := m.printed.push "No ROM loaded.  Use 'load <file>'." }) ∧
    ∀ lines : List (Files × String), (∀ entry ∈ lines, Refused entry.1 entry.2) →
      let after := m.afterLines lines
      after.breakpoints = m.breakpoints ∧ after.programPath = m.programPath ∧
      (after.console = m.console ∨ after.console = { m.console with loaded := false }) ∧
      ∀ path, after.programPath = some path → ∃ program, record = some (path, program) ∧
        ∀ files, readFile files path = .ok program →
        ∀ line argument, MonitorLine.read line = .command .reset argument →
          ∃ restored, execute files line after = .ok false restored ∧
            restored.breakpoints = m.breakpoints ∧ restored.programPath = some path ∧
            ∀ other : Console ρ, other.engine.variant = m.console.engine.variant →
              other.machine.flags = m.console.machine.flags →
              ∃ loaded, loadFrom files path other = .ok () loaded ∧
                restored.console.SameState loaded := by
  refine ⟨fun program hsize => load_of_too_large m.console hsize,
    fun files path fault hfile => loadFrom_of_error hfile m.console, ?_, ?_⟩
  · intro hloaded
    refine ⟨?_, ?_⟩
    · intro requests hneeds
      exact ⟨afterAll_of_not_loaded hloaded hneeds,
        fun request hrequest => perform_of_not_loaded hloaded (hneeds request hrequest)⟩
    · intro files line command argument hline hcommand
      exact execute_of_not_loaded hloaded files hline hcommand
  · intro lines hlines after
    obtain ⟨loaded, printed, hafter, hloaded⟩ := afterLines_of_refused hlines m
    have hconsole : after.console = { m.console with loaded := loaded } := by
      simp only [after, hafter]
    have hpath : after.programPath = m.programPath := by simp only [after, hafter]
    refine ⟨by simp only [after, hafter], hpath, ?_, ?_⟩
    · rw [hconsole]
      rcases hloaded with rfl | rfl
      · exact .inl rfl
      · exact .inr rfl
    · intro path hrecorded
      -- the refused loads have kept the path, so it is the one on record
      obtain ⟨hsame, hfits⟩ := hm.spec
      obtain ⟨⟨recorded, program⟩, hrecord, heq⟩ :=
        Option.map_eq_some_iff.mp (hsame.symm.trans (hpath.symm.trans hrecorded))
      obtain rfl : path = recorded := heq.symm
      refine ⟨program, hrecord, ?_⟩
      intro files hfile line argument hline
      have hprogram := programIn?_eq_some.mpr ⟨hfile, hfits _ _ hrecord⟩
      have hloadedBy : loadedBy? files after line = some (path, program) := by
        simp only [loadedBy?, requestedPath?, hline, hrecorded, Option.bind_some, hprogram,
          Option.map_some]
      obtain ⟨printed', hexecute⟩ := execute_of_loadedBy hloadedBy
      refine ⟨_, hexecute, by simp only [after, hafter], rfl, ?_⟩
      intro other hvariant hflags
      refine ⟨(Move.load program).after other, ?_, ?_⟩
      · rw [loadFrom_of_ok hfile, load_of_fits other (hfits _ _ hrecord),
          Move.after_load_of_fits other (hfits _ _ hrecord)]
      · rw [hconsole]
        exact sameState_load hvariant.symm hflags.symm (hfits _ _ hrecord)

/-- A program is loaded, two further loads fail, the second since its file is too large,
and `reset` brings the program back. -/
theorem failed_loads_contained_before_reset :
    ∃ c : Console Cycle, Console.assemble "chip8" 2 false (.ofList [7]) = .ok c ∧
      let files : Files := ⟨fun path =>
        if path = "a" then .ok [0x12, 0x00]
        else if path = "big" then .ok (List.replicate 3585 0)
        else .error (.notFound path)⟩
      let m := Attempt.after (execute files "load a") (observing c)
      let lines := [(files, "load 'a"), (files, "load big")]
      Recorded m (some ("a", [0x12, 0x00])) ∧
        (∀ entry ∈ lines, Refused entry.1 entry.2) ∧
        (m.afterLines lines).console.loaded = false ∧
        ∃ restored loaded, execute files "reset" (m.afterLines lines) = .ok false restored ∧
          loadFrom files "a" m.console = .ok () loaded ∧
          restored.console.SameState loaded := by
  refine ⟨_, rfl, ?_⟩
  intro files m lines
  obtain ⟨hload, hopen, hbig, hreset⟩ :
      MonitorLine.read "load a" = .command .load "a" ∧
        MonitorLine.read "load 'a" = .command .load "'a" ∧
        MonitorLine.read "load big" = .command .load "big" ∧
        MonitorLine.read "reset" = .command .reset "" := by
    decide +kernel
  obtain ⟨hword, hunsplit, hbigWord⟩ : (ShellWords.split "a").toOption = some ["a"] ∧
      (ShellWords.split "'a").toOption = none ∧
      (ShellWords.split "big").toOption = some ["big"] := by
    decide +kernel
  obtain ⟨hprogram, htooLarge, hunloaded, hpath⟩ :
      programIn? files "a" = some [0x12, 0x00] ∧ programIn? files "big" = none ∧
        (m.afterLines lines).console.loaded = false ∧
        (m.afterLines lines).programPath = some "a" := by
    decide +kernel
  have hm : Recorded m (some ("a", [0x12, 0x00])) := by
    have hloadedBy : ∀ console : Console Cycle,
        loadedBy? files (observing console) "load a" = some ("a", [0x12, 0x00]) := by
      intro console
      simp [loadedBy?, requestedPath?, hload, hword, hprogram]
    have hline : Recorded m ((loadedBy? files (observing _) "load a").or none) :=
      .line (.observing _) files "load a"
    rw [hloadedBy] at hline
    exact hline
  have hlines : ∀ entry ∈ lines, Refused entry.1 entry.2 := by
    have hfirst : Refused files "load 'a" := by
      refine ⟨"'a", hopen, ?_⟩
      intro path rest hwords
      rw [hwords] at hunsplit
      cases hunsplit
    have hsecond : Refused files "load big" := by
      refine ⟨"big", hbig, ?_⟩
      intro path rest hwords
      rw [hwords] at hbigWord
      cases hbigWord
      exact htooLarge
    intro entry hentry
    rcases List.mem_cons.mp hentry with rfl | hlast
    · exact hfirst
    · rw [List.mem_singleton.mp hlast]
      exact hsecond
  obtain ⟨-, -, -, hrefused⟩ := failed_loads_contained hm
  obtain ⟨-, -, -, hrecorded⟩ := hrefused lines hlines
  obtain ⟨program, hrecord, hrestores⟩ := hrecorded "a" hpath
  cases hrecord
  obtain ⟨restored, hexecute, -, -, hdirect⟩ :=
    hrestores files (programIn?_eq_some.mp hprogram).1 "reset" "" hreset
  obtain ⟨loaded, hfrom, hstate⟩ := hdirect m.console rfl rfl
  exact ⟨hm, hlines, hunloaded, restored, loaded, hexecute, hfrom, hstate⟩

end Monitor

end SuperChip
