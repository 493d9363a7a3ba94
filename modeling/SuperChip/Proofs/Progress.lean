import SuperChip.Proofs.Accounting
import SuperChip.Proofs.FailedLoads
import SuperChip.Proofs.HeadlessRun

/-!
# Progress of runs in the monitor

A run in the monitor makes at least one step, unless it starts at a breakpoint: the
monitor looks for a breakpoint before each step, also before the first.  So a run that
has stopped at a breakpoint cannot be taken up again by another run.  However often
frames are asked for, the monitor names the same breakpoint and executes nothing.

## Strategy

A step that succeeds counts itself, so moves that succeed count the steps among them
(`Move.counted_of_performAll`).  A run makes a beginning of its schedule, all of it unless it
stops at a breakpoint (`exists_framesWith`).  The first move of a schedule is a step,
and a beginning without moves ends where it starts, which is at a breakpoint then.
-/

namespace SuperChip

variable {ρ : Type} [Generator ρ]

/-- A run of at least one frame begins with a step. -/
theorem Request.exists_moves_run_eq {frames : Int} (hframes : 1 ≤ frames) {stepsPerFrame : Nat}
    (hsteps : 0 < stepsPerFrame) :
    ∃ rest, (Request.run frames).moves stepsPerFrame = .step :: rest := by
  obtain ⟨others, hothers⟩ : ∃ others, frames.toNat = others + 1 :=
    ⟨frames.toNat - 1, by omega⟩
  obtain ⟨more, rfl⟩ : ∃ more, stepsPerFrame = more + 1 := ⟨stepsPerFrame - 1, by omega⟩
  rw [moves, hothers, List.replicate_succ, List.flatten_cons, frameMoves, List.replicate_succ]
  exact ⟨_, rfl⟩

namespace Monitor

variable {breakpoints : List Int} {frames : Int} {c last : Console ρ} {hit : Option Nat}

/-! ## Frames with and without breakpoints -/

/-- A run makes a beginning of its schedule, all of it unless it stops at a breakpoint. -/
theorem exists_framesWith (breakpoints : List Int) (frames : Int)
    (hc : c.Running c.stepsPerFrame) :
    ∃ hit last moves, framesWith breakpoints frames c = .ok hit last ∧
      Move.performAll moves c = .ok () last ∧
      moves <+: (Request.run frames).moves c.stepsPerFrame ∧
      (hit = none → moves = (Request.run frames).moves c.stepsPerFrame) ∧
      (hit ≠ none → atBreakpoint breakpoints last.machine = true) := by
  -- without breakpoints all frames run, and no step is looked at
  by_cases hnone : breakpoints = []
  · subst hnone
    obtain ⟨redraws, last, hrun⟩ := hc.exists_run frames
    exact ⟨none, last, _, framesWith_nil hrun, Console.performAll_of_run hrun, List.prefix_rfl,
      fun _ => rfl, fun h => absurd rfl h⟩
  · rw [framesWith_of_breakpoints hnone]
    rcases framesToBreakpoint_cases breakpoints 0 frames.toNat hc with
      ⟨last, hall, hresult⟩ | ⟨complete, hcomplete, made, hmade, last, hfirst, hat, hresult⟩
    · exact ⟨none, last, _, hresult, hall.performAll_eq, List.prefix_rfl, fun _ => rfl,
        fun h => absurd rfl h⟩
    · have hbeginning := (List.prefix_append _ _).trans (isPrefix_schedule hcomplete hmade)
      exact ⟨_, last, _, hresult, hfirst.performAll_eq, hbeginning, nofun, fun _ => hat⟩

/-- Fewer frames are complete at a breakpoint than were asked for. -/
theorem lt_of_framesWith {done : Nat} (hc : c.Running c.stepsPerFrame)
    (h : framesWith breakpoints frames c = .ok (some done) last) : done < frames.toNat := by
  by_cases hnone : breakpoints = []
  · subst hnone
    obtain ⟨redraws, ran, hrun⟩ := hc.exists_run frames
    rw [framesWith_nil hrun] at h
    cases h
  · rw [framesWith_of_breakpoints hnone] at h
    rcases framesToBreakpoint_cases breakpoints 0 frames.toNat hc with
      ⟨ran, -, hresult⟩ | ⟨complete, hcomplete, _, -, ran, -, -, hresult⟩
    · rw [h] at hresult
      cases hresult
    · rw [h, Nat.zero_add] at hresult
      cases hresult
      exact hcomplete

/-- No frames are asked for, and none are run. -/
theorem framesWith_of_nonpos (hframes : frames ≤ 0) (breakpoints : List Int) (c : Console ρ) :
    framesWith breakpoints frames c = .ok none c := by
  have hnone : frames.toNat = 0 := Int.toNat_of_nonpos hframes
  by_cases hbreakpoints : breakpoints = []
  · subst hbreakpoints
    have hrun : Console.run frames c = .ok 0 c := by
      rw [Console.run, hnone]
      rfl
    exact framesWith_nil hrun
  · rw [framesWith_of_breakpoints hbreakpoints, hnone]
    rfl

/-- Frames that do not start at a breakpoint make at least one step. -/
theorem exists_framesWith_of_pass (hpass : atBreakpoint breakpoints c.machine = false)
    (hframes : 1 ≤ frames) (hc : c.Running c.stepsPerFrame) :
    ∃ hit last, framesWith breakpoints frames c = .ok hit last ∧ c.steps < last.steps ∧
      (hit ≠ none → atBreakpoint breakpoints last.machine = true) := by
  obtain ⟨hit, last, moves, hresult, hmoves, hbeginning, hall, hat⟩ :=
    exists_framesWith breakpoints frames hc
  obtain ⟨rest, hschedule⟩ := Request.exists_moves_run_eq hframes c.stepsPerFrame_pos
  refine ⟨hit, last, hresult, ?_, hat⟩
  have hload : ∀ program, .load program ∉ moves := by
    intro program hmem
    cases Request.eq_single_of_load_mem (hbeginning.subset hmem)
  have hcount : last.steps = c.steps + moves.count .step :=
    (Move.counted_of_performAll hload hmoves).steps
  cases moves with
  | nil =>
      -- nothing is left out of a run that does not stop, and a stop here is a breakpoint here
      cases hmoves
      have hstopped : hit ≠ none := by
        intro hnone
        rw [hschedule] at hall
        cases hall hnone
      rw [hat hstopped] at hpass
      cases hpass
  | cons first others =>
      rw [hschedule] at hbeginning
      obtain ⟨rfl, -⟩ := List.cons_prefix_cons.mp hbeginning
      rw [hcount, List.count_cons_self]
      omega

/-- Frames that start at a breakpoint stop there. -/
theorem framesWith_of_atBreakpoint (hat : atBreakpoint breakpoints c.machine = true)
    (hframes : 1 ≤ frames) : framesWith breakpoints frames c = .ok (some 0) c := by
  have hbreakpoints : breakpoints ≠ [] := by
    intro hnone
    rw [hnone] at hat
    cases hat
  obtain ⟨others, hothers⟩ : ∃ others, frames.toNat = others + 1 :=
    ⟨frames.toNat - 1, by omega⟩
  obtain ⟨more, hmore⟩ : ∃ more, c.stepsPerFrame = more + 1 := by
    have hpos := c.stepsPerFrame_pos
    exact ⟨c.stepsPerFrame - 1, by omega⟩
  rw [framesWith_of_breakpoints hbreakpoints, hothers]
  simp only [framesToBreakpoint, bind, EStateM.bind, Attempt.get_eq, hmore,
    stepsToBreakpoint_of_hit hat, if_true]
  rfl

/-! ## Lines -/

/-- A line asks for at least one frame, with one of the two commands that run frames; with
no number it asks for sixty. -/
def AsksForFrames (line : String) (frames : Int) : Prop :=
  1 ≤ frames ∧ ∃ command argument, (command = Command.run ∨ command = Command.resume) ∧
    MonitorLine.read line = .command command argument ∧
    if trimmed argument = "" then frames = 60 else readNumber argument = .ok frames

variable {m : Monitor ρ} {files : Files} {line : String}

omit [Generator ρ] in
theorem AsksForFrames.numberOr_eq {command : Command} {argument : String}
    (hread : MonitorLine.read line = .command command argument)
    (hline : AsksForFrames line frames) (m : Monitor ρ) :
    (command = .run ∨ command = .resume) ∧ numberOr 60 argument m = .ok frames m := by
  obtain ⟨-, other, text, hcommand, hother, hnumber⟩ := hline
  rw [hread] at hother
  cases hother
  refine ⟨hcommand, ?_⟩
  by_cases hempty : trimmed argument = ""
  · rw [if_pos hempty] at hnumber
    rw [numberOr, if_pos hempty, hnumber]
    rfl
  · rw [if_neg hempty] at hnumber
    exact numberOr_of_readNumber hempty hnumber m

omit [Generator ρ] in
theorem AsksForFrames.of_numberOr {command : Command} {argument : String} (hframes : 1 ≤ frames)
    (hcommand : command = .run ∨ command = .resume)
    (hread : MonitorLine.read line = .command command argument)
    (hnumber : numberOr 60 argument m = .ok frames m) : AsksForFrames line frames := by
  refine ⟨hframes, command, argument, hcommand, hread, ?_⟩
  unfold numberOr at hnumber
  by_cases hempty : trimmed argument = ""
  · rw [if_pos hempty] at hnumber ⊢
    cases hnumber
    rfl
  · rw [if_neg hempty] at hnumber ⊢
    cases hread : readNumber argument with
    | ok number =>
        rw [hread] at hnumber
        cases hnumber
        rfl
    | error fault =>
        rw [hread] at hnumber
        cases hnumber

theorem execute_of_asksForFrames (hloaded : m.console.loaded = true) (files : Files)
    (hline : AsksForFrames line frames)
    (hresult : framesWith m.breakpoints frames m.console = .ok hit last) :
    execute files line m =
      match endLine frames last.machine.pc hit with
      | .ok shown => .ok false { m with console := last, printed := m.printed.push shown }
      | .error fault => .error fault { m with console := last } := by
  have hasks := hline
  obtain ⟨-, command, argument, -, hread, -⟩ := hasks
  obtain ⟨hcommand, hframes⟩ := hline.numberOr_eq hread m
  exact execute_of_framesWith hloaded files hcommand hread hframes hresult

/-- What is said of a breakpoint that is hit behind some frames. -/
def hitLine (m : Machine) (frames : Nat) : String :=
  s!"\nBreakpoint hit at {Hexadecimal.address m.pc} (frame {frames})"

theorem exists_execute_eq (hloaded : m.console.loaded = true) (files : Files)
    (hline : AsksForFrames line frames)
    (hresult : framesWith m.breakpoints frames m.console = .ok hit last) :
    (∃ printed, Attempt.after (execute files line) m =
      { m with console := last, printed := printed }) ∧
    ∀ shown, endLine frames last.machine.pc hit = .ok shown →
      execute files line m =
        .ok false { m with console := last, printed := m.printed.push shown } := by
  have hexecute := execute_of_asksForFrames hloaded files hline hresult
  constructor
  · rw [Attempt.after, hexecute]
    cases endLine frames last.machine.pc hit with
    | ok shown => exact ⟨_, rfl⟩
    | error fault => exact ⟨_, rfl⟩
  · intro shown hshown
    rw [hexecute, hshown]

/-- A line that asks for frames at a breakpoint only has the breakpoint named. -/
theorem execute_of_atBreakpoint (hloaded : m.console.loaded = true)
    (hat : atBreakpoint m.breakpoints m.machine = true) (hline : AsksForFrames line frames) :
    execute files line m =
      .ok false { m with printed := m.printed.push (hitLine m.machine 0) } := by
  have hresult := framesWith_of_atBreakpoint (c := m.console) hat hline.1
  have hshown : endLine frames m.machine.pc (some 0) = .ok (hitLine m.machine 0) :=
    endLine_some (Nat.pow_pos (by decide)) m.machine.pc
  exact (exists_execute_eq hloaded files hline hresult).2 _ hshown

theorem afterLines_of_atBreakpoint {lines : List (Files × String)}
    (hloaded : m.console.loaded = true)
    (hat : atBreakpoint m.breakpoints m.machine = true)
    (hlines : ∀ entry ∈ lines, ∃ frames, AsksForFrames entry.2 frames) :
    m.afterLines lines = { m with
      printed := m.printed ++ Array.replicate lines.length (hitLine m.machine 0) } := by
  induction lines generalizing m with
  | nil => simp [afterLines]
  | cons entry rest ih =>
      obtain ⟨found, line⟩ := entry
      obtain ⟨frames, hline⟩ := hlines (found, line) List.mem_cons_self
      have hfirst : Attempt.after (execute found line) m =
          { m with printed := m.printed.push (hitLine m.machine 0) } :=
        Attempt.after_eq_of_ok (execute_of_atBreakpoint hloaded hat hline)
      -- the line has only printed, so the machine still stands at the breakpoint
      have hrest := ih (m := { m with printed := m.printed.push (hitLine m.machine 0) }) hloaded hat
        fun later hlater => hlines later (List.mem_cons_of_mem _ hlater)
      rw [afterLines, hfirst, hrest, List.length_cons, Array.replicate_succ', ← Array.append_assoc,
        Array.append_singleton]
      rfl

omit [Generator ρ] in
theorem console_of_printed {m after : Monitor ρ} {printed : Array String}
    (h : after = { m with printed := printed }) : after.console = m.console := by
  rw [h]

/-- **A run makes progress unless it starts at a breakpoint.**  A line that asks for at
least one frame makes at least one step, however many frames and breakpoints there are,
if the machine does not stand at a breakpoint in front of it: then the console goes on,
and if it stops before the frames are complete, it stands at a breakpoint afterwards.
(Where the number to be named in the end has no numeral, the line fails then, and the
console has gone on all the same.)  At a breakpoint no such line makes a step.  Any number
of them, one after the other, name the breakpoint so many times and leave everything else
as it is. -/
theorem run_makes_progress {m : Monitor ρ} (hm : m.Reachable) (hloaded : m.console.loaded = true)
    (files : Files) {line : String} {frames : Int} (hline : AsksForFrames line frames) :
    (atBreakpoint m.breakpoints m.machine = false →
      ∃ hit last, framesWith m.breakpoints frames m.console = .ok hit last ∧
        m.console.steps < last.steps ∧
        (hit ≠ none → atBreakpoint m.breakpoints last.machine = true) ∧
        (∃ printed, Attempt.after (execute files line) m =
          { m with console := last, printed := printed }) ∧
        ∀ shown, endLine frames last.machine.pc hit = .ok shown →
          execute files line m =
            .ok false { m with console := last, printed := m.printed.push shown }) ∧
    (atBreakpoint m.breakpoints m.machine = true →
      ∀ lines : List (Files × String), (∀ entry ∈ lines, ∃ frames, AsksForFrames entry.2 frames) →
        m.afterLines lines = { m with
          printed := m.printed ++ Array.replicate lines.length (hitLine m.machine 0) }) := by
  constructor
  · intro hpass
    have hrunning : m.console.Running m.console.stepsPerFrame := ⟨hm.sound, hloaded, rfl⟩
    obtain ⟨hit, last, hresult, hsteps, hat⟩ := exists_framesWith_of_pass hpass hline.1 hrunning
    obtain ⟨hafter, hshown⟩ := exists_execute_eq hloaded files hline hresult
    exact ⟨hit, last, hresult, hsteps, hat, hafter, hshown⟩
  · intro hat lines hlines
    exact afterLines_of_atBreakpoint hloaded hat hlines

/-- A counter in a loop of two instructions.  A breakpoint at the second one lets a run
begin, and a breakpoint at the first one does not. -/
theorem run_makes_progress_of_counter :
    ∃ c : Console Cycle, Console.assemble "chip8" 2 false (.ofList [7]) = .ok c ∧
      let program : List UInt8 := [0x70, 0x01, 0x12, 0x00]
      let files := Folder.empty.files
      let start := observing ((Move.load program).after c)
      let ahead := Attempt.after (execute files "bp 0x202") start
      let here := Attempt.after (execute files "bp 0x200") start
      ahead.Reachable ∧ ahead.console.loaded = true ∧ AsksForFrames "run 1" 1 ∧
        atBreakpoint ahead.breakpoints ahead.machine = false ∧
        ahead.console.steps < (Attempt.after (execute files "run 1") ahead).console.steps ∧
        here.Reachable ∧ here.console.loaded = true ∧ AsksForFrames "continue" 60 ∧
        atBreakpoint here.breakpoints here.machine = true ∧
        (here.afterLines [(files, "continue"), (files, "run 1")]).console = here.console := by
  have hassembled : Console.assemble "chip8" 2 false (Cycle.ofList [7]) = .ok _ := rfl
  refine ⟨_, hassembled, ?_⟩
  intro program files start ahead here
  have hstart : start.Reachable :=
    .observing ((Console.sound_of_assemble hassembled).after (.load program)) none
  have hahead : ahead.Reachable := .line hstart files "bp 0x202"
  have hhere : here.Reachable := .line hstart files "bp 0x200"
  obtain ⟨hloaded, hpass, hloaded', hat⟩ :
      ahead.console.loaded = true ∧ atBreakpoint ahead.breakpoints ahead.machine = false ∧
        here.console.loaded = true ∧ atBreakpoint here.breakpoints here.machine = true := by
    decide +kernel
  have hrun : AsksForFrames "run 1" 1 :=
    ⟨by decide, .run, "1", .inl rfl, by decide +kernel, by decide +kernel⟩
  have hresume : AsksForFrames "continue" 60 :=
    ⟨by decide, .resume, "", .inr rfl, by decide +kernel, by decide +kernel⟩
  refine ⟨hahead, hloaded, hrun, hpass, ?_, hhere, hloaded', hresume, hat, ?_⟩
  · obtain ⟨hprogress, -⟩ := run_makes_progress hahead hloaded files hrun
    obtain ⟨hit, last, -, hsteps, -, ⟨printed, hafter⟩, -⟩ := hprogress hpass
    rw [hafter]
    exact hsteps
  · obtain ⟨-, hstays⟩ := run_makes_progress hhere hloaded' files hresume
    apply console_of_printed
    apply hstays hat
    intro entry hentry
    rcases List.mem_cons.mp hentry with rfl | hrest
    · exact ⟨60, hresume⟩
    · rw [List.mem_singleton.mp hrest]
      exact ⟨1, hrun⟩

/-- A run stops at the breakpoint behind its first step, and then `continue` makes no
step: the count stays at one. -/
theorem resume_makes_no_step :
    ∃ c : Console Cycle, Console.assemble "chip8" 2 false (.ofList [7]) = .ok c ∧
      let program : List UInt8 := [0x70, 0x01, 0x12, 0x00]
      let files := Folder.empty.files
      let m := Attempt.after (execute files "run 1")
        (Attempt.after (execute files "bp 0x202") (observing ((Move.load program).after c)))
      m.Reachable ∧ m.console.loaded = true ∧ AsksForFrames "continue" 60 ∧
        m.console.steps = 1 ∧
        (Attempt.after (execute files "continue") m).console.steps = 1 := by
  have hassembled : Console.assemble "chip8" 2 false (Cycle.ofList [7]) = .ok _ := rfl
  refine ⟨_, hassembled, ?_⟩
  intro program files m
  have hm : m.Reachable := by
    have hsound := (Console.sound_of_assemble hassembled).after (.load program)
    exact .line (.line (.observing hsound none) files "bp 0x202") files "run 1"
  have hresume : AsksForFrames "continue" 60 :=
    ⟨by decide, .resume, "", .inr rfl, by decide +kernel, by decide +kernel⟩
  obtain ⟨hloaded, hsteps, hat⟩ : m.console.loaded = true ∧ m.console.steps = 1 ∧
      atBreakpoint m.breakpoints m.machine = true := by
    decide +kernel
  have hkept : (Attempt.after (execute files "continue") m).console = m.console :=
    console_of_printed (Attempt.after_eq_of_ok (execute_of_atBreakpoint hloaded hat hresume))
  refine ⟨hm, hloaded, hresume, hsteps, ?_⟩
  rw [hkept, hsteps]

end Monitor

end SuperChip
