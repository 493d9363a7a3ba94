import SuperChip.Proofs.Accounting
import SuperChip.Proofs.Conversation
import SuperChip.Proofs.Preparation

/-!
# Headless runs and visits to the monitor

A program can be run without a window, which prints its last picture and how many
frames and beeps there were; or it can be run in the monitor, where the picture and
the status are printed on request.  Both start with the same console, but they run
it in different ways: the headless run lets a recorder listen, and the monitor has a
loop of its own as soon as there are breakpoints.

## Strategy

Both consoles come from one command line but for the mode (`exists_ready`), so that
they are together (`Console.Together`) and stay together over the run, with the
recorder and without.  In the monitor, breakpoints that are never hit leave the run
as it is (`Monitor.framesWith_of_not_stopsAfter`), and the conversation is taken line
by line (`Monitor.exists_converse_visit`).  What remains is that the rows of a picture,
joined by line feeds, are the lines that the monitor prints.
-/

namespace SuperChip

/-! ## Lines -/

/-- Joined by line feeds and closed by one, lines are lines with a line feed each. -/
theorem intercalate_append_feed {lines : List String} (hlines : lines ≠ []) :
    "\n".intercalate lines ++ "\n" = linesText lines := by
  induction lines with
  | nil => exact absurd rfl hlines
  | cons line rest ih =>
      cases rest with
      | nil => simp [linesText]
      | cons next others =>
          calc "\n".intercalate (line :: next :: others) ++ "\n"
              = line ++ "\n" ++ ("\n".intercalate (next :: others) ++ "\n") := by
                rw [String.intercalate_cons_cons, String.append_assoc]
            _ = line ++ "\n" ++ linesText (next :: others) := by rw [ih (List.cons_ne_nil _ _)]
            _ = linesText (line :: next :: others) := by
                simp only [linesText, List.map_cons, String.join_cons]

namespace Console

variable {ρ : Type} (c : Console ρ)

theorem pictureLines_ne_nil : c.pictureLines ≠ [] := by
  intro hnone
  have hlength : c.pictureLines.length = c.machine.resolution.height := by
    rw [pictureLines, List.length_map, c.machine.isTable_pictureRows.length_eq]
  rw [hnone] at hlength
  exact absurd hlength (Nat.ne_of_lt c.machine.resolution.height_pos)

/-- The text of a picture is the lines of it. -/
theorem text_pictureRows :
    Picture.text "#" "." c.machine.pictureRows ++ "\n" = linesText c.pictureLines :=
  intercalate_append_feed c.pictureLines_ne_nil

/-- A status shows the counters on a line of its own. -/
theorem exists_eq_of_statusText {status : String} (h : c.statusText = .ok status) :
    ∃ before after, status =
      before ++ s!"\n  Frames: {c.frames}  Steps: {c.steps}  Beeps: {c.beeps}\n" ++ after := by
  unfold statusText at h
  have hsteps := of_numeralOf_bind h
  have hbeeps := of_numeralOf_bind hsteps
  have hstatus := of_numeralOf_bind hbeeps
  refine ⟨"\n".intercalate
    ["=== Registers ===",
      c.machine.registersText,
      "",
      "=== System ===",
      s!"  Variant: {c.engine.variant.name}  Strict: {switchText c.engine.strict}",
      s!"  ROM: {c.programSize} bytes  (free {(programLimit : Int) - c.programSize})",
      s!"  Display: {c.machine.resolution.width}x{c.machine.resolution.height} " ++
        s!"(stride {Plane.stride})"], s!"  Keys: {c.keypadText}", ?_⟩
  rw [← Except.ok.inj hstatus]
  simp only [String.intercalate_cons_cons, String.intercalate_singleton, String.append_assoc]
  rfl

/-- There is a status as long as the counters have numerals. -/
theorem exists_statusText_eq (hframes : c.frames < 10 ^ Numeral.decimalLimit)
    (hsteps : c.steps < 10 ^ Numeral.decimalLimit)
    (hbeeps : c.beeps < 10 ^ Numeral.decimalLimit) :
    ∃ status, c.statusText = .ok status := by
  have hwritten : ∀ {count : Nat}, count < 10 ^ Numeral.decimalLimit →
      numeralOf count = .ok (toString (count : Int)) :=
    fun h => numeralOf_of_lt h
  simp only [statusText, hwritten hframes, hwritten hsteps, hwritten hbeeps]
  exact ⟨_, rfl⟩

end Console

/-! ## Counting -/

/-- What moves without a load among them come to: each step counts itself, and so does each
end of a frame, which may count a beep as well. -/
structure Counted {ρ : Type} (c : Console ρ) (moves : List Move) (last : Console ρ) : Prop where
  steps : last.steps = c.steps + moves.count .step
  frames : last.frames = c.frames + moves.count .closeFrame
  beeps : last.beeps ≤ c.beeps + moves.count .closeFrame

theorem Counted.append {ρ : Type} {c d last : Console ρ} {first second : List Move}
    (hfirst : Counted c first d) (hsecond : Counted d second last) :
    Counted c (first ++ second) last where
  steps := by rw [hsecond.steps, hfirst.steps, List.count_append, Nat.add_assoc]
  frames := by rw [hsecond.frames, hfirst.frames, List.count_append, Nat.add_assoc]
  beeps := by
    have hbeeps := hfirst.beeps
    have hmore := hsecond.beeps
    rw [List.count_append]
    omega

namespace Move

variable {ρ : Type} [Generator ρ] {c d : Console ρ}

theorem counted_of_step (h : step.perform c = .ok () d) : Counted c [step] d := by
  cases hloaded : c.loaded with
  | false =>
      simp only [perform, Console.step_of_not_loaded hloaded] at h
      cases h
  | true =>
      cases hstep : Engine.step c.showKeypad.engine with
      | ok value e =>
          simp only [perform, Console.step_ok hloaded hstep] at h
          cases h
          exact ⟨rfl, rfl, Nat.le_refl _⟩
      | error fault e =>
          simp only [perform, Console.step_error hloaded hstep] at h
          cases h

theorem counted_of_perform {move : Move} (hload : ∀ program, move ≠ .load program)
    (h : move.perform c = .ok () d) : Counted c [move] d := by
  have hafter : d = move.after c := (Attempt.after_eq_of_ok h).symm
  -- steps and ends of frames count themselves, and the other moves count nothing
  cases move with
  | load program => exact absurd rfl (hload program)
  | step => exact counted_of_step h
  | holdKey key pressed =>
      obtain ⟨keypad, hkeypad⟩ := after_holdKey c key pressed
      rw [hafter, hkeypad]
      exact ⟨rfl, rfl, Nat.le_refl _⟩
  | releaseKeys =>
      rw [hafter, after_releaseKeys]
      exact ⟨rfl, rfl, Nat.le_refl _⟩
  | closeFrame =>
      rw [hafter, after_closeFrame, Console.frameEnded_eq]
      refine ⟨rfl, rfl, ?_⟩
      dsimp only
      split
      · exact Nat.le_refl _
      · exact Nat.le_succ _

/-- Moves that all succeed have counted themselves. -/
theorem counted_of_performAll {moves : List Move} (hload : ∀ program, .load program ∉ moves)
    (h : performAll moves c = .ok () d) : Counted c moves d := by
  induction moves generalizing c with
  | nil =>
      cases h
      exact ⟨rfl, rfl, Nat.le_refl _⟩
  | cons move rest ih =>
      simp only [performAll, bind, EStateM.bind] at h
      cases hmove : move.perform c with
      | error fault next =>
          rw [hmove] at h
          cases h
      | ok value next =>
          rw [hmove] at h
          have hfirst : Counted c [move] next := by
            refine counted_of_perform ?_ hmove
            intro program heq
            exact hload program (heq ▸ List.mem_cons_self)
          have hrest : ∀ program, Move.load program ∉ rest := fun program hmem =>
            hload program (List.mem_cons_of_mem _ hmem)
          exact hfirst.append (ih hrest h)

end Move

/-! ## Running to the end -/

namespace Console

open Monitor

variable {ρ : Type} [Generator ρ] {frames : Int} {redraws : Nat} {c last : Console ρ}

theorem performAll_of_run (hrun : run frames c = .ok redraws last) :
    Move.performAll ((Request.run frames).moves c.stepsPerFrame) c = .ok () last := by
  rw [← Request.perform_eq_performAll]
  simp only [Request.perform, bind, EStateM.bind, hrun]
  rfl

/-- A run counts its frames and their steps, and no frame beeps twice. -/
theorem counted_of_run (hrun : run frames c = .ok redraws last) :
    last.frames = c.frames + frames.toNat ∧
      last.steps = c.steps + frames.toNat * c.stepsPerFrame ∧
      last.beeps ≤ c.beeps + frames.toNat := by
  have hcounted : Counted c ((Request.run frames).moves c.stepsPerFrame) last := by
    refine Move.counted_of_performAll ?_ (performAll_of_run hrun)
    intro program hmem
    cases Request.eq_single_of_load_mem hmem
  have hcloses : ((Request.run frames).moves c.stepsPerFrame).count .closeFrame = frames.toNat := by
    simp [Request.moves, Request.frameMoves, List.count_flatten, List.count_replicate]
  have hsteps : ((Request.run frames).moves c.stepsPerFrame).count .step =
      frames.toNat * c.stepsPerFrame := by
    simp [Request.moves, Request.frameMoves, List.count_flatten]
  exact ⟨hcloses ▸ hcounted.frames, hsteps ▸ hcounted.steps, hcloses ▸ hcounted.beeps⟩

/-- A console with a program runs all frames that it is asked for. -/
theorem Running.exists_run (hc : c.Running c.stepsPerFrame) (frames : Int) :
    ∃ redraws last, run frames c = .ok redraws last := by
  rcases framesToBreakpoint_cases [] 0 frames.toNat hc with
    ⟨last, hall, -⟩ | ⟨_, -, _, -, _, -, hat, -⟩
  · have hschedule : Move.performAll ((Request.run frames).moves c.stepsPerFrame) c = .ok () last :=
      hall.performAll_eq
    obtain ⟨redraws, hrun⟩ := run_eq_of_performAll hschedule
    exact ⟨redraws, last, hrun⟩
  · -- without breakpoints there is nothing to stop at
    exact absurd (atBreakpoint_iff.mp hat).1 List.not_mem_nil

theorem Sound.of_performAll {moves : List Move} (hc : c.Sound)
    (h : Move.performAll moves c = .ok () last) : last.Sound := by
  induction moves generalizing c with
  | nil =>
      cases h
      exact hc
  | cons move rest ih =>
      simp only [Move.performAll, bind, EStateM.bind] at h
      cases hmove : move.perform c with
      | ok value next =>
          have hafter : move.after c = next := by simp only [Move.after, Attempt.after, hmove]
          rw [hmove] at h
          exact ih (hafter ▸ hc.after move) h
      | error fault next =>
          rw [hmove] at h
          cases h

end Console

namespace Monitor

variable {ρ : Type} [Generator ρ] {breakpoints : List Int} {frames : Int} {redraws : Nat}
  {c last stopped : Console ρ} {schedule first : List Move}

theorem StopsAfter.of_subset {others : List Int}
    (h : StopsAfter breakpoints schedule c first stopped)
    (hothers : ∀ address ∈ breakpoints, address ∈ others) :
    StopsAfter others schedule c first stopped :=
  { h with address := hothers _ h.address }

/-- A breakpoint that no program counter reaches is never hit. -/
theorem not_stopsAfter_of_far (hc : c.Sound) (hfar : ∀ address ∈ breakpoints, 0x10FE < address) :
    ¬ StopsAfter breakpoints schedule c first stopped := by
  intro hstop
  have hrange := (hc.of_performAll hstop.reached).wellFormed.pc_range.2
  have haddress := hfar _ hstop.address
  exact absurd hrange (Int.not_le.mpr haddress)

/-- With breakpoints that are never hit, the frames are those that run without them. -/
theorem framesWith_of_not_stopsAfter (hc : c.Running c.stepsPerFrame)
    (hnever : ∀ first stopped, ¬ StopsAfter breakpoints
      ((Request.run frames).moves c.stepsPerFrame) c first stopped)
    (hrun : Console.run frames c = .ok redraws last) :
    framesWith breakpoints frames c = .ok none last := by
  by_cases hnone : breakpoints = []
  · rw [hnone]
    exact framesWith_nil hrun
  · rw [framesWith_of_breakpoints hnone]
    rcases framesToBreakpoint_cases breakpoints 0 frames.toNat hc with
      ⟨d, hall, hresult⟩ | ⟨complete, hcomplete, made, hmade, d, hfirst, hat, -⟩
    · have hsame : .ok () d = EStateM.Result.ok () last :=
        hall.performAll_eq.symm.trans (Console.performAll_of_run hrun)
      cases hsame
      exact hresult
    -- a loop that stops early has made a beginning of the schedule that stops
    · obtain ⟨haddress, hactive⟩ := atBreakpoint_iff.mp hat
      exact absurd ⟨isPrefix_schedule hcomplete hmade, hfirst.performAll_eq, haddress, hactive⟩
        (hnever _ d)

/-! ## A visit to the monitor -/

/-- A visit to a program: breakpoints are set, none of which is hit while the frames
run; then the frames are run, and the picture and the status are asked for. -/
structure Visit (start : Console ρ) (frames : Int) where
  /-- The lines that set breakpoints, each with its address. -/
  placing : List (String × Int)
  runLine : String
  frameLine : String
  statusLine : String
  /-- What is typed afterwards. -/
  rest : List String
  sets : ∀ entry ∈ placing, SetsBreakpoint start.machine entry.1 entry.2
  passes : ∀ first stopped, ¬ StopsAfter (placing.map Prod.snd)
    ((Request.run frames).moves start.stepsPerFrame) start first stopped
  runs : ∃ argument, MonitorLine.read runLine = .command .run argument ∧
    ∀ m : Monitor ρ, numberOr 60 argument m = .ok frames m
  shows : ∃ argument, MonitorLine.read frameLine = .command .frame argument
  asks : ∃ argument, MonitorLine.read statusLine = .command .status argument

namespace Visit

variable {start : Console ρ} (visit : Visit start frames)

/-- The lines of a visit, in the order in which they are typed. -/
def typed : List String :=
  visit.placing.map Prod.fst ++
    visit.runLine :: visit.frameLine :: visit.statusLine :: visit.rest

/-- What a visit shows of a program that ends so: each answer behind a prompt. -/
def shown (last : Console ρ) : String :=
  String.join (visit.placing.map fun entry => prompt ++ linesText [breakpointLine entry.2]) ++
    prompt ++ linesText [s!"Ran {frames} frames."] ++
    prompt ++ linesText last.pictureLines ++
    prompt ++ linesText last.statusLines

end Visit

/-- A line that asks for frames and meets no breakpoint runs them all. -/
theorem exists_answers_run {m : Monitor ρ} (hrunning : m.console.Running m.console.stepsPerFrame)
    (hnever : ∀ first stopped, ¬ StopsAfter m.breakpoints
      ((Request.run frames).moves m.console.stepsPerFrame) m.console first stopped)
    (hrun : Console.run frames m.console = .ok redraws last)
    (hwritten : Numeral.write frames = .ok (toString frames)) (files : Files)
    {line argument : String} (hline : MonitorLine.read line = .command .run argument)
    (hframes : numberOr 60 argument m = .ok frames m) :
    ∃ after, Answers files line m [s!"Ran {frames} frames."] after ∧ after.console = last := by
  have hresult := framesWith_of_not_stopsAfter hrunning hnever hrun
  have hexecute : execute files line m = .ok false { m with
      console := last, printed := m.printed ++ #[s!"Ran {frames} frames."] } := by
    rw [execute_of_framesWith hrunning.loaded files (.inl rfl) hline hframes hresult,
      endLine_none hwritten]
    exact congrArg (fun printed => EStateM.Result.ok false { m with
      console := last, printed := printed }) Array.push_eq_append
  exact ⟨_, ⟨hexecute, rfl⟩, rfl⟩

/-- A session in which a visit is typed shows what the visit shows, whatever is typed
afterwards. -/
theorem exists_converse_visit {start : Console ρ} (hrunning : start.Running start.stepsPerFrame)
    (hrun : Console.run frames start = .ok redraws last)
    (hwritten : Numeral.write frames = .ok (toString frames)) (visit : Visit start frames)
    {m : Monitor ρ} (hstart : m.console = start) (hbreakpoints : m.breakpoints = [])
    (files : Files) (interrupted : Bool) (output : String) :
    ∃ closing, (converse files interrupted output m visit.typed).output =
      output ++ visit.shown last ++ closing := by
  subst hstart
  obtain ⟨runArgument, hrunLine, hframes⟩ := visit.runs
  obtain ⟨frameArgument, hframeLine⟩ := visit.shows
  obtain ⟨statusArgument, hstatusLine⟩ := visit.asks
  obtain ⟨placed, hplaced, hmem, hplacing⟩ := exists_converse_placing visit.sets files interrupted
    output (visit.runLine :: visit.frameLine :: visit.statusLine :: visit.rest)
  -- the breakpoints that were placed are all there are, and the visit passes them
  have hnever : ∀ first stopped, ¬ StopsAfter placed.breakpoints
      ((Request.run frames).moves m.console.stepsPerFrame) m.console first stopped := by
    intro first stopped hstop
    refine visit.passes first stopped (hstop.of_subset ?_)
    intro address haddress
    simpa [hbreakpoints] using (hmem address).mp haddress
  rw [← hplaced] at hrunning hnever hrun
  obtain ⟨ran, hran, hlast⟩ :=
    exists_answers_run hrunning hnever hrun hwritten files hrunLine (hframes placed)
  obtain ⟨looked, hlooked, hsame⟩ := exists_answers_frame files hframeLine ran
  obtain ⟨closing, hclosing⟩ :=
    exists_converse_status files hstatusLine looked interrupted _ visit.rest
  refine ⟨closing, ?_⟩
  rw [Visit.typed, hplacing, converse_cons hran, converse_cons hlooked, hclosing, hsame, hlast,
    Visit.shown]
  simp only [String.append_assoc]

end Monitor

/-! ## The headless run -/

namespace Console

variable {ρ : Type} [Generator ρ]

/-- A recorder that listens does not disturb a console. -/
theorem Together.recording {c d : Console ρ} (h : Together c d) (keep : Int) :
    Together c ((d.addRecorder keep).startRecorder d.recorders.size) :=
  ⟨h.engine, h.stepsPerFrame, h.keypad, h.frames, h.steps, h.beeps, h.loaded⟩

theorem Together.stopRecorder {c d : Console ρ} (h : Together c d) (id : Nat) :
    Together c (d.stopRecorder id) := by
  unfold Console.stopRecorder
  split
  · exact ⟨h.engine, h.stepsPerFrame, h.keypad, h.frames, h.steps, h.beeps, h.loaded⟩
  · exact h

end Console

namespace Run

variable {start last : Console Twister} {frames : Int} {redraws : Nat}

/-- What a headless run prints of a program that ends so. -/
def headlessText (last : Console Twister) : String :=
  linesText last.pictureLines ++ s!"[headless] {last.frames} frames, {last.beeps} beeps\n"

theorem exists_headless_eq {c : Console Twister} (h : start.Together c)
    (hrun : Console.run frames start = .ok redraws last) (t : Transcript) :
    ∃ errors, headless frames c t = (.returned 0, ⟨t.output ++ headlessText last, errors⟩) := by
  obtain ⟨after, hafter, hlast⟩ := (h.recording 1).exists_run hrun
  have hstopped := hlast.stopRecorder c.recorders.size
  refine ⟨(t.complain (reportLines (after.stopRecorder c.recorders.size))).errors, ?_⟩
  simp only [headless, hafter, Transcript.say, Transcript.complain]
  rw [Console.text_pictureRows, Console.pictureLines, ← hstopped.machine, ← hstopped.frames,
    ← hstopped.beeps, headlessText, Console.pictureLines, String.append_assoc]

theorem loadedLine_eq {c d : Console Twister} (h : c.Together d) (path : String) (size : Nat) :
    loadedLine c path size = loadedLine d path size := by
  rw [loadedLine, loadedLine, h.engine.variant, h.stepsPerFrame]

variable {arguments : List String} {settings : Settings} {outside : Surroundings} {t : Transcript}

theorem exists_ofArguments_headless (hsettings : Settings.ofArguments arguments = .ok settings)
    (hmode : settings.mode = .headless) (hframes : settings.frames = .given frames)
    {c : Console Twister} (hready : ready settings outside.files outside.random = .ok (c, t))
    (h : start.Together c) (hrun : Console.run frames start = .ok redraws last) :
    ∃ errors, ofArguments arguments outside =
      (.returned 0, ⟨t.output ++ headlessText last, errors⟩) := by
  have hran : ofArguments arguments outside = headless frames c t := by
    rw [ofArguments, hsettings]
    simp only [ofSettings, hready, perform, hmode, hframes]
  rw [hran]
  exact exists_headless_eq h hrun t

theorem exists_ofArguments_monitor (hsettings : Settings.ofArguments arguments = .ok settings)
    (hmode : settings.mode = .monitor)
    (hready : ready settings outside.files outside.random = .ok (start, t))
    (hrunning : start.Running start.stepsPerFrame)
    (hrun : Console.run frames start = .ok redraws last)
    (hwritten : Numeral.write frames = .ok (toString frames))
    (visit : Monitor.Visit start frames) (htyped : outside.typed = visit.typed) :
    ∃ closing, (ofArguments arguments outside).2.output =
      t.output ++ Monitor.greeting ++ "\n" ++ visit.shown last ++ closing := by
  have hobserved : ofArguments arguments outside = observe settings outside start t := by
    rw [ofArguments, hsettings]
    simp only [ofSettings, hready, perform, hmode]
  have houtput : (observe settings outside start t).2.output = t.output ++
      (Monitor.session outside.files outside.interrupted (monitor settings start)
        visit.typed).output := by
    simp only [observe, htyped]
    split
    · rfl
    · rfl
  have hvisit := Monitor.exists_converse_visit (m := monitor settings start) hrunning hrun hwritten
    visit rfl rfl
  obtain ⟨closing, hclosing⟩ := hvisit outside.files outside.interrupted (Monitor.greeting ++ "\n")
  refine ⟨closing, ?_⟩
  rw [hobserved, houtput, Monitor.session, hclosing]
  simp only [String.append_assoc]

/-- **A headless run and a visit to the monitor show the same.**  Let two command
lines open the same program, for the same variant, number of steps in a frame and
seed, one to run it without a window for some frames and the other in the monitor.
The headless run prints the lines of the picture with which the program ends, and
then its counts of frames and beeps.  In the monitor, where breakpoints may be set as
long as none of them is hit, the command that runs as many frames leads to the same
console: the picture that is printed on request has the same lines, and the status
shows the same counts.  (There is a status as long as the steps have a numeral; the
numbers of frames and beeps always have one.) -/
theorem headless_agrees_with_monitor {unattended attended : List String}
    {headless monitored : Settings} (hunattended : Settings.ofArguments unattended = .ok headless)
    (hattended : Settings.ofArguments attended = .ok monitored)
    (hheadless : headless.mode = .headless) (hmonitored : monitored.mode = .monitor)
    {path : String} {variant : Variant} {cycles seed frames : Int}
    (hopens : headless.Opens path variant cycles seed)
    (hopens' : monitored.Opens path variant cycles seed) (hcycles : 1 ≤ cycles)
    (hframes : headless.frames = .given frames) {files : Files} {program : List UInt8}
    (hfile : Console.readFile files path = .ok program)
    (hfits : program.length ≤ programLimit) :
    ∃ (start last : Console Twister) (redraws : Nat),
      let opening := loadedLine start path program.length
      (∀ random, ready monitored files random = .ok (start, Transcript.empty.say opening)) ∧
      Console.run frames start = .ok redraws last ∧
      (∀ status, last.statusText = .ok status → ∃ before after, status =
        before ++ s!"\n  Frames: {last.frames}  Steps: {last.steps}  Beeps: {last.beeps}\n" ++
          after) ∧
      (last.steps < 10 ^ Numeral.decimalLimit → ∃ status, last.statusText = .ok status) ∧
      (∀ outside : Surroundings, outside.files = files → ∃ errors,
        ofArguments unattended outside =
          (.returned 0, ⟨opening ++ linesText last.pictureLines ++
            s!"[headless] {last.frames} frames, {last.beeps} beeps\n", errors⟩)) ∧
      ∀ (visit : Monitor.Visit start frames) (outside : Surroundings),
        outside.files = files → outside.typed = visit.typed →
          ∃ closing, (ofArguments attended outside).2.output =
            opening ++ Monitor.greeting ++ "\n" ++ visit.shown last ++ closing := by
  obtain ⟨c, hassembled, hready⟩ := exists_ready hopens' (by simp [hmonitored]) hcycles hfile hfits
  obtain ⟨d, hassembled', hready'⟩ := exists_ready hopens (by simp [hheadless]) hcycles hfile hfits
  have htogether := (Console.together_of_assemble hassembled hassembled').load hfits
  have hrunning : ((Move.load program).after c).Running
      ((Move.load program).after c).stepsPerFrame := by
    refine ⟨(Console.sound_of_assemble hassembled).after _, ?_, rfl⟩
    rw [Move.after_load_of_fits c hfits]
  obtain ⟨redraws, last, hrun⟩ := hrunning.exists_run frames
  have hwritten : Numeral.write frames = .ok (toString frames) :=
    Settings.writable_ofArguments unattended headless hunattended frames hframes
  refine ⟨_, last, redraws, hready, hrun, fun _ => last.exists_eq_of_statusText, ?_, ?_, ?_⟩
  · -- the program has just been loaded, so that the other counters are no more than `frames`
    intro hsteps
    obtain ⟨hcount, -, hbeeps⟩ := Console.counted_of_run hrun
    have hlimit : frames.toNat < 10 ^ Numeral.decimalLimit := by
      have hle : frames.toNat ≤ frames.natAbs := by omega
      exact Nat.lt_of_le_of_lt hle (Numeral.natAbs_lt_of_write hwritten)
    rw [Move.after_load_of_fits c hfits, Nat.zero_add] at hcount hbeeps
    exact last.exists_statusText_eq (hcount ▸ hlimit) hsteps (Nat.lt_of_le_of_lt hbeeps hlimit)
  · rintro outside rfl
    obtain ⟨errors, hprinted⟩ := exists_ofArguments_headless hunattended hheadless hframes
      (hready' outside.random) htogether hrun
    refine ⟨errors, ?_⟩
    rw [hprinted, ← loadedLine_eq htogether, headlessText, ← String.append_assoc]
    rfl
  · rintro visit outside rfl htyped
    exact exists_ofArguments_monitor hattended hmonitored (hready outside.random) hrunning hrun
      hwritten visit htyped

/-- A digit that beeps, run for two frames, with a breakpoint behind the memory. -/
theorem headless_agrees_with_monitor_on_digit :
    let program : List UInt8 := [0x60, 0x01, 0xF0, 0x18, 0xD0, 0x05, 0x12, 0x06]
    let files : Files := ⟨fun _ => .ok program⟩
    let unattended := ["rom", "--headless", "--frames", "2", "--seed", "7"]
    let attended := ["rom", "--monitor", "--seed", "7"]
    let typed := ["bp 0x1ffe", "run 2", "frame", "status", "quit"]
    let opened : Settings := { Settings.default with rom := some "rom", seed := some (.given 7) }
    let headless : Settings := { opened with mode := .headless, frames := .given 2 }
    let monitored : Settings := { opened with mode := .monitor }
    Settings.ofArguments unattended = .ok headless ∧
      Settings.ofArguments attended = .ok monitored ∧
      headless.Opens "rom" .schip 10 7 ∧ monitored.Opens "rom" .schip 10 7 ∧
      Console.readFile files "rom" = .ok program ∧ program.length ≤ programLimit ∧
      ∃ (start last : Console Twister) (visit : Monitor.Visit start 2), visit.typed = typed ∧
        ∀ outside : Surroundings, outside.files = files → outside.typed = typed →
          ∃ opening closing,
            (ofArguments unattended outside).2.output = opening ++ linesText last.pictureLines ++
              s!"[headless] {last.frames} frames, {last.beeps} beeps\n" ∧
            (ofArguments attended outside).2.output =
              opening ++ Monitor.greeting ++ "\n" ++ visit.shown last ++ closing := by
  intro program files unattended attended typed opened headless monitored
  have hunattended : Settings.ofArguments unattended = .ok headless := by decide +kernel
  have hattended : Settings.ofArguments attended = .ok monitored := by decide +kernel
  have hopens : headless.Opens "rom" .schip 10 7 := ⟨rfl, rfl, rfl, rfl⟩
  have hopens' : monitored.Opens "rom" .schip 10 7 := ⟨rfl, rfl, rfl, rfl⟩
  have hfile : Console.readFile files "rom" = .ok program := by
    have hname : "rom".toList.contains (Char.ofNat 0) = false := by decide +kernel
    rw [Console.readFile, hname]
    rfl
  have hfits : program.length ≤ programLimit := by decide
  obtain ⟨start, last, redraws, hready, -, -, -, hheadless, hmonitor⟩ :=
    headless_agrees_with_monitor hunattended hattended rfl rfl hopens hopens' (by decide) rfl hfile
      hfits
  have hsound : start.Sound := by
    obtain ⟨c, hassembled, hopened⟩ := exists_ready hopens' (by decide) (by decide) hfile hfits
    have hsame := (hready (Twister.ofSeed 7)).symm.trans (hopened (Twister.ofSeed 7))
    rw [(Prod.mk.inj (Except.ok.inj hsame)).1]
    exact (Console.sound_of_assemble hassembled).after _
  have hsets : Monitor.SetsBreakpoint start.machine "bp 0x1ffe" 0x1FFE := by
    have hline : MonitorLine.read "bp 0x1ffe" = .command .bp "0x1ffe" := by decide +kernel
    have hsome : trimmed "0x1ffe" ≠ "" := by decide +kernel
    have hlower : lowercased (trimmed "0x1ffe") = "0x1ffe" := by decide +kernel
    refine ⟨"0x1ffe", hline, hsome, ?_⟩
    rw [Monitor.readAddress, hlower]
    rfl
  have hruns : ∀ m : Monitor Twister, Monitor.numberOr 60 "2" m = .ok 2 m := by
    have hsome : trimmed "2" ≠ "" := by decide +kernel
    exact Monitor.numberOr_of_readNumber hsome rfl
  let visit : Monitor.Visit start 2 :=
    { placing := [("bp 0x1ffe", 0x1FFE)]
      runLine := "run 2"
      frameLine := "frame"
      statusLine := "status"
      rest := ["quit"]
      sets := by simpa using hsets
      passes := fun first stopped => Monitor.not_stopsAfter_of_far hsound (by simp)
      runs := ⟨"2", by decide +kernel, hruns⟩
      shows := ⟨"", by decide +kernel⟩
      asks := ⟨"", by decide +kernel⟩ }
  refine ⟨hunattended, hattended, hopens, hopens', hfile, hfits, start, last, visit, rfl, ?_⟩
  intro outside hfiles htyped
  obtain ⟨errors, hprinted⟩ := hheadless outside hfiles
  obtain ⟨closing, hshown⟩ := hmonitor visit outside hfiles htyped
  refine ⟨_, closing, ?_, hshown⟩
  rw [hprinted]

end Run

end SuperChip
