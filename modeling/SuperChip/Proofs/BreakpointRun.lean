import SuperChip.Proofs.Numerals
import SuperChip.Proofs.Reachable

/-!
# Running up to a breakpoint

With breakpoints the monitor runs frames in a loop of its own, which looks at the
machine before each step.  It follows the schedule that a run of the console
follows, and it ends in front of the first step at which a breakpoint stands, in
the middle of a frame if need be.  If there is no such step, it makes the whole
schedule, and then nobody can tell that there were breakpoints.

## Strategy

`Uninterrupted` says that some moves lead from one console to another and pass no
breakpoint.  The two loops either make all their moves uninterrupted or stop
behind an uninterrupted beginning of them (`stepsToBreakpoint_cases`,
`framesToBreakpoint_cases`, by induction on the steps and on the frames).  Since
nothing uninterrupted has a stop inside (`Uninterrupted.not_stopsAfter`), the stop
that a loop has found is the first one of the schedule.
-/

namespace SuperChip

variable {ρ : Type} [Generator ρ]

namespace Console

/-- A console with a program, a sound engine and so many steps in a frame. -/
structure Running (stepsPerFrame : Nat) (c : Console ρ) : Prop where
  sound : c.Sound
  loaded : c.loaded = true
  stepsPerFrame : c.stepsPerFrame = stepsPerFrame

namespace Running

variable {stepsPerFrame : Nat} {c : Console ρ}

theorem step (h : c.Running stepsPerFrame) :
    ∃ d, Console.step c = .ok () d ∧ d.Running stepsPerFrame :=
  ⟨_, h.sound.step_eq h.loaded, Engine.Reachable.after h.sound.showKeypad .step, h.loaded,
    h.stepsPerFrame⟩

theorem frameEnded (h : c.Running stepsPerFrame) : c.frameEnded.2.Running stepsPerFrame := by
  refine ⟨h.sound.frameEnded, ?_, ?_⟩
  · rw [frameEnded_eq]
    exact h.loaded
  · rw [frameEnded_eq]
    exact h.stepsPerFrame

end Running

end Console

namespace Monitor

variable {breakpoints : List Int}

/-! ## Stops -/

/-- Some moves of a schedule lead to a console that has a breakpoint at the step
that comes next. -/
structure StopsAfter (breakpoints : List Int) (schedule : List Move) (c : Console ρ)
    (first : List Move) (stopped : Console ρ) : Prop where
  next : first ++ [.step] <+: schedule
  reached : Move.performAll first c = .ok () stopped
  address : stopped.machine.pc ∈ breakpoints
  active : stopped.machine.waiting = false

theorem atBreakpoint_iff {m : Machine} :
    atBreakpoint breakpoints m = true ↔ m.pc ∈ breakpoints ∧ m.waiting = false := by
  simp [atBreakpoint]

/-- Moves that lead from one console to another, none of them a step at a
breakpoint. -/
inductive Uninterrupted (breakpoints : List Int) : Console ρ → List Move → Console ρ → Prop
  | nil (c : Console ρ) : Uninterrupted breakpoints c [] c
  | cons {c d e : Console ρ} {move : Move} {rest : List Move}
      (hpass : move = .step → atBreakpoint breakpoints c.machine = false)
      (hmove : move.perform c = .ok () d) (hrest : Uninterrupted breakpoints d rest e) :
      Uninterrupted breakpoints c (move :: rest) e

namespace Uninterrupted

variable {c d e : Console ρ} {first second moves schedule : List Move}

theorem append (hfirst : Uninterrupted breakpoints c first d)
    (hsecond : Uninterrupted breakpoints d second e) :
    Uninterrupted breakpoints c (first ++ second) e := by
  induction hfirst with
  | nil c => exact hsecond
  | cons hpass hmove _ ih => exact .cons hpass hmove (ih hsecond)

theorem performAll_eq (h : Uninterrupted breakpoints c moves d) :
    Move.performAll moves c = .ok () d := by
  induction h with
  | nil c => rfl
  | cons _ hmove _ ih =>
      simp only [Move.performAll, bind, EStateM.bind, hmove]
      exact ih

/-- Nothing uninterrupted has a stop inside. -/
theorem not_stopsAfter (h : Uninterrupted breakpoints c moves d) :
    ¬ StopsAfter breakpoints moves c first e := by
  intro hstop
  induction h generalizing first with
  | nil c =>
      have hnext := List.prefix_nil.mp hstop.next
      simp at hnext
  | @cons c d' _ move rest hpass hmove _ ih =>
      cases first with
      -- a stop in front of the first move, which has no breakpoint in front of it
      | nil =>
          obtain ⟨hstep, -⟩ := List.cons_prefix_cons.mp hstop.next
          have hhere : c = e := by
            have hreached := hstop.reached
            simp only [Move.performAll] at hreached
            cases hreached
            rfl
          have hbreak : atBreakpoint breakpoints c.machine = true := by
            rw [hhere]
            exact atBreakpoint_iff.mpr ⟨hstop.address, hstop.active⟩
          rw [hpass hstep.symm] at hbreak
          cases hbreak
      | cons other first =>
          obtain ⟨hsame, hnext⟩ := List.cons_prefix_cons.mp hstop.next
          have hreached := hstop.reached
          simp only [hsame, Move.performAll, bind, EStateM.bind, hmove] at hreached
          exact ih ⟨hnext, hreached, hstop.address, hstop.active⟩

/-- The stops of a schedule lie behind its uninterrupted beginnings. -/
theorem isPrefix_of_stopsAfter (h : Uninterrupted breakpoints c moves d)
    (hmoves : moves <+: schedule) (hstop : StopsAfter breakpoints schedule c first e) :
    moves <+: first := by
  by_cases hlength : first.length < moves.length
  · have hinside : first ++ [.step] <+: moves := by
      refine List.prefix_of_prefix_length_le hstop.next hmoves ?_
      rw [List.length_append, List.length_singleton]
      exact hlength
    exact absurd ⟨hinside, hstop.reached, hstop.address, hstop.active⟩ h.not_stopsAfter
  · have hfirst : first <+: schedule := (List.prefix_append first _).trans hstop.next
    exact List.prefix_of_prefix_length_le hmoves hfirst (by omega)

end Uninterrupted

/-! ## The two loops -/

variable {stepsPerFrame : Nat} {c d : Console ρ}

theorem stepsToBreakpoint_of_hit (hbreak : atBreakpoint breakpoints c.machine = true)
    (count : Nat) : stepsToBreakpoint breakpoints (count + 1) c = .ok true c := by
  simp only [stepsToBreakpoint, bind, EStateM.bind, Attempt.get_eq, if_pos hbreak]
  rfl

theorem stepsToBreakpoint_of_pass (hpass : atBreakpoint breakpoints c.machine = false)
    (hstep : Console.step c = .ok () d) (count : Nat) :
    stepsToBreakpoint breakpoints (count + 1) c = stepsToBreakpoint breakpoints count d := by
  simp only [stepsToBreakpoint, bind, EStateM.bind, Attempt.get_eq, hpass, Bool.false_eq_true,
    if_false, hstep]

/-- The steps of a frame are all made, or some of them up to a breakpoint. -/
theorem stepsToBreakpoint_cases (breakpoints : List Int) (count : Nat)
    (hc : c.Running stepsPerFrame) :
    (∃ d, d.Running stepsPerFrame ∧
      Uninterrupted breakpoints c (List.replicate count .step) d ∧
      stepsToBreakpoint breakpoints count c = .ok false d) ∨
    (∃ made < count, ∃ d, Uninterrupted breakpoints c (List.replicate made .step) d ∧
      atBreakpoint breakpoints d.machine = true ∧
      stepsToBreakpoint breakpoints count c = .ok true d) := by
  induction count generalizing c with
  | zero => exact .inl ⟨c, hc, .nil c, rfl⟩
  | succ count ih =>
      cases hbreak : atBreakpoint breakpoints c.machine with
      | true => exact .inr ⟨0, by omega, c, .nil c, hbreak, stepsToBreakpoint_of_hit hbreak count⟩
      | false =>
          obtain ⟨next, hstep, hnext⟩ := hc.step
          rw [stepsToBreakpoint_of_pass hbreak hstep]
          rcases ih hnext with ⟨d, hd, hall, hresult⟩ | ⟨made, hmade, d, hsome, hat, hresult⟩
          · exact .inl ⟨d, hd, .cons (fun _ => hbreak) hstep hall, hresult⟩
          · exact .inr ⟨made + 1, by omega, d, .cons (fun _ => hbreak) hstep hsome, hat, hresult⟩

/-- The frames are all made, or some of them and then some steps up to a
breakpoint, with as many frames in the result. -/
theorem framesToBreakpoint_cases (breakpoints : List Int) (done count : Nat)
    (hc : c.Running stepsPerFrame) :
    (∃ d, Uninterrupted breakpoints c
        (List.replicate count (Request.frameMoves stepsPerFrame)).flatten d ∧
      framesToBreakpoint breakpoints done count c = .ok none d) ∨
    (∃ complete < count, ∃ made < stepsPerFrame, ∃ d,
      Uninterrupted breakpoints c
        ((List.replicate complete (Request.frameMoves stepsPerFrame)).flatten ++
          List.replicate made .step) d ∧
      atBreakpoint breakpoints d.machine = true ∧
      framesToBreakpoint breakpoints done count c = .ok (some (done + complete)) d) := by
  induction count generalizing c done with
  | zero => exact .inl ⟨c, .nil c, rfl⟩
  | succ count ih =>
      have hsteps := stepsToBreakpoint_cases breakpoints stepsPerFrame hc
      rcases hsteps with ⟨d, hd, hall, hresult⟩ | ⟨made, hmade, d, hsome, hat, hresult⟩
      -- the first frame is passed, and the frames that are left decide
      · have hframe : Uninterrupted breakpoints c (Request.frameMoves stepsPerFrame)
            d.frameEnded.2 := by
          refine hall.append (.cons ?_ rfl (.nil _))
          intro hstep
          cases hstep
        have hloop : framesToBreakpoint breakpoints done (count + 1) c =
            framesToBreakpoint breakpoints (done + 1) count d.frameEnded.2 := by
          simp only [framesToBreakpoint, bind, EStateM.bind, Attempt.get_eq, hc.stepsPerFrame,
            hresult, Bool.false_eq_true, if_false, Console.closeFrame]
        rw [hloop]
        rcases ih (done + 1) hd.frameEnded with
          ⟨last, hrest, hresult⟩ | ⟨complete, hcomplete, made, hmade, last, hrest, hat, hresult⟩
        · refine .inl ⟨last, ?_, hresult⟩
          rw [List.replicate_succ, List.flatten_cons]
          exact hframe.append hrest
        · refine .inr ⟨complete + 1, by omega, made, hmade, last, ?_, hat, ?_⟩
          · rw [List.replicate_succ, List.flatten_cons, List.append_assoc]
            exact hframe.append hrest
          · rw [hresult]
            congr 2
            omega
      -- the first frame is left at a breakpoint, with no frame complete
      · refine .inr ⟨0, by omega, made, hmade, d, hsome, hat, ?_⟩
        simp only [framesToBreakpoint, bind, EStateM.bind, Attempt.get_eq, hc.stepsPerFrame,
          hresult, if_true]
        rfl

/-- The step behind some frames and not quite another one is in the schedule. -/
theorem isPrefix_schedule {complete count made : Nat} (hcomplete : complete < count)
    (hmade : made < stepsPerFrame) :
    ((List.replicate complete (Request.frameMoves stepsPerFrame)).flatten ++
        List.replicate made .step) ++ [.step] <+:
      (List.replicate count (Request.frameMoves stepsPerFrame)).flatten := by
  obtain ⟨others, rfl⟩ : ∃ others, count = complete + (others + 1) :=
    ⟨count - complete - 1, by omega⟩
  -- the frame under way has one step more than those that were made
  have hsteps : List.replicate made Move.step ++ [.step] <+:
      List.replicate stepsPerFrame .step := by
    refine ⟨List.replicate (stepsPerFrame - (made + 1)) .step, ?_⟩
    rw [← List.replicate_succ', List.replicate_append_replicate, Nat.add_sub_of_le hmade]
  have hframe : List.replicate made Move.step ++ [.step] <+: Request.frameMoves stepsPerFrame :=
    hsteps.trans (List.prefix_append _ _)
  rw [← List.replicate_append_replicate, List.flatten_append, List.append_assoc,
    List.prefix_append_right_inj, List.replicate_succ, List.flatten_cons]
  exact hframe.trans (List.prefix_append _ _)

/-! ## The command -/

variable {m : Monitor ρ} {frames : Int}

theorem endLine_none {number : String} (h : Numeral.write frames = .ok number) (pc : Int) :
    endLine frames pc none = .ok s!"Ran {number} frames." := by
  simp only [endLine, numeralOf, h]
  rfl

theorem endLine_some {done : Nat} (h : done < 10 ^ Numeral.decimalLimit) (pc : Int) :
    endLine frames pc (some done) =
      .ok s!"\nBreakpoint hit at {Hexadecimal.address pc} (frame {done})" := by
  have hnumber : numeralOf (done : Int) = .ok (toString (done : Int)) := numeralOf_of_lt h
  simp only [endLine, hnumber]
  rfl

/-- The console is where the frames have left it, whether its last line can be written or not. -/
theorem advanceFrames_eq {hit : Option Nat}
    (h : framesWith m.breakpoints frames m.console = .ok hit d) :
    advanceFrames frames m =
      match endLine frames d.machine.pc hit with
      | .ok shown => .ok () { m with console := d, printed := m.printed.push shown }
      | .error fault => .error fault { m with console := d } := by
  have hconsole : onConsole (framesWith m.breakpoints frames) m =
      .ok hit { m with console := d } :=
    Attempt.onPart_ok h
  simp only [advanceFrames, bind, EStateM.bind, Attempt.get_eq, hconsole, machine]
  cases endLine frames d.machine.pc hit with
  | ok shown => rfl
  | error fault => rfl

/-- A line that asks for frames of a console with a program runs them. -/
theorem execute_of_frames (hloaded : m.console.loaded = true) (files : Files)
    {line argument : String} {command : Command} (hcommand : command = .run ∨ command = .resume)
    (hline : MonitorLine.read line = .command command argument)
    (hframes : numberOr 60 argument m = .ok frames m) :
    execute files line m = goOn (advanceFrames frames) m := by
  have hready : ready m = .ok true m := by
    simp only [ready, bind, EStateM.bind, Attempt.get_eq, if_pos hloaded]
    rfl
  have hrun : run argument m = advanceFrames frames m := by
    simp only [run, bind, EStateM.bind, hready, if_true, hframes]
  rcases hcommand with rfl | rfl
  · simp only [execute, hline, perform, goOn, bind, EStateM.bind, hrun]
  · simp only [execute, hline, perform, goOn, bind, EStateM.bind, hrun]

/-- What becomes of a line that asks for frames is decided by what its frames come to. -/
theorem execute_of_framesWith (hloaded : m.console.loaded = true) (files : Files)
    {line argument : String} {command : Command} (hcommand : command = .run ∨ command = .resume)
    (hline : MonitorLine.read line = .command command argument)
    (hframes : numberOr 60 argument m = .ok frames m) {hit : Option Nat}
    (hresult : framesWith m.breakpoints frames m.console = .ok hit d) :
    execute files line m =
      match endLine frames d.machine.pc hit with
      | .ok shown => .ok false { m with console := d, printed := m.printed.push shown }
      | .error fault => .error fault { m with console := d } := by
  rw [execute_of_frames hloaded files hcommand hline hframes]
  simp only [goOn, bind, EStateM.bind, advanceFrames_eq hresult]
  cases endLine frames d.machine.pc hit with
  | ok shown => rfl
  | error fault => rfl

/-- A line that asks for frames leaves the console where its frames have left it. -/
theorem console_of_framesWith (hloaded : m.console.loaded = true) (files : Files)
    {line argument : String} {command : Command} (hcommand : command = .run ∨ command = .resume)
    (hline : MonitorLine.read line = .command command argument)
    (hframes : numberOr 60 argument m = .ok frames m) {hit : Option Nat}
    (hresult : framesWith m.breakpoints frames m.console = .ok hit d) :
    (Attempt.after (execute files line) m).console = d := by
  rw [Attempt.after, execute_of_framesWith hloaded files hcommand hline hframes hresult]
  cases endLine frames d.machine.pc hit with
  | ok shown => rfl
  | error fault => rfl

/-- An operation as it is without breakpoints, which come back after it. -/
def ignoringBreakpoints {α : Type} (operation : Attempt (Monitor ρ) α) : Attempt (Monitor ρ) α :=
  Attempt.onPart (fun m => { m with breakpoints := [] })
    (fun after m => { after with breakpoints := m.breakpoints }) operation

/-- A run that makes its whole schedule gives what its schedule gives. -/
theorem run_eq_of_performAll {c d : Console ρ}
    (h : Move.performAll ((Request.run frames).moves c.stepsPerFrame) c = .ok () d) :
    ∃ redraws, Console.run frames c = .ok redraws d := by
  rw [← Request.perform_eq_performAll] at h
  simp only [Request.perform, bind, EStateM.bind] at h
  cases hrun : Console.run frames c with
  | ok redraws last =>
      rw [hrun] at h
      cases h
      exact ⟨redraws, rfl⟩
  | error fault last =>
      rw [hrun] at h
      cases h

theorem framesWith_of_breakpoints (hbreakpoints : breakpoints ≠ []) (c : Console ρ) :
    framesWith breakpoints frames c = framesToBreakpoint breakpoints 0 frames.toNat c := by
  rw [framesWith, if_neg hbreakpoints]

theorem framesWith_nil {redraws : Nat} (h : Console.run frames c = .ok redraws d) :
    framesWith [] frames c = .ok none d := by
  simp only [framesWith, if_true, bind, EStateM.bind, h]
  rfl

omit [Generator ρ] in
theorem numberOr_of_readNumber {otherwise number : Int} {text : String} (hsome : trimmed text ≠ "")
    (hread : readNumber text = .ok number) (m : Monitor ρ) :
    numberOr otherwise text m = .ok number m := by
  rw [numberOr, if_neg hsome, hread]
  rfl

omit [Generator ρ] in
theorem numberOr_of_eq_ok {otherwise number : Int} {text : String}
    (h : numberOr otherwise text m = .ok number m) (other : Monitor ρ) :
    numberOr otherwise text other = .ok number other := by
  unfold numberOr at h ⊢
  by_cases hempty : trimmed text = ""
  · rw [if_pos hempty] at h ⊢
    cases h
    rfl
  · rw [if_neg hempty] at h ⊢
    cases hread : readNumber text with
    | ok value =>
        rw [hread] at h
        cases h
        rfl
    | error fault =>
        rw [hread] at h
        cases h

/-- A line that runs all its frames does so without breakpoints as well. -/
theorem execute_eq_ignoringBreakpoints (hloaded : m.console.loaded = true) (files : Files)
    {line argument : String} {command : Command} (hcommand : command = .run ∨ command = .resume)
    (hline : MonitorLine.read line = .command command argument)
    (hframes : numberOr 60 argument m = .ok frames m)
    (hresult : framesWith m.breakpoints frames m.console = .ok none d) {redraws : Nat}
    (hrun : Console.run frames m.console = .ok redraws d) :
    execute files line m = ignoringBreakpoints (execute files line) m := by
  have hwithout := execute_of_framesWith (m := { m with breakpoints := [] }) hloaded files hcommand
    hline (numberOr_of_eq_ok hframes _) (framesWith_nil hrun)
  simp only [ignoringBreakpoints, Attempt.onPart, hwithout,
    execute_of_framesWith hloaded files hcommand hline hframes hresult]
  cases endLine frames d.machine.pc none with
  | ok shown => rfl
  | error fault => rfl

/-- **Breakpoints interrupt a run and do nothing else.**  With breakpoints a line
that asks for frames follows the schedule that a run of the console follows.  If
no step of it stands at a breakpoint, the console ends as that run ends it, and
the line does what it does without breakpoints.  Otherwise the console ends in
front of the first such step: behind all moves of the schedule before it, with the
frames that are complete closed and the last one not, and the monitor names the
breakpoint and the number of complete frames.  (Where the number to be named has no
numeral, the line fails in the end, with breakpoints as without, and the console
is where the frames have left it all the same.) -/
theorem run_stops_at_breakpoint {m : Monitor ρ} (hm : m.Reachable)
    (hloaded : m.console.loaded = true) (hbreakpoints : m.breakpoints ≠ []) (files : Files)
    {line argument : String} {command : Command} (hcommand : command = .run ∨ command = .resume)
    (hline : MonitorLine.read line = .command command argument) {frames : Int}
    (hframes : numberOr 60 argument m = .ok frames m) :
    let schedule := (Request.run frames).moves m.console.stepsPerFrame
    ((∀ first stopped, ¬ StopsAfter m.breakpoints schedule m.console first stopped) →
      ∃ redraws last, Console.run frames m.console = .ok redraws last ∧
        Move.performAll schedule m.console = .ok () last ∧
        framesWith m.breakpoints frames m.console = .ok none last ∧
        (∀ number, Numeral.write frames = .ok number →
          execute files line m = .ok false { m with
            console := last, printed := m.printed.push s!"Ran {number} frames." }) ∧
        (Attempt.after (execute files line) m).console = last ∧
        execute files line m = ignoringBreakpoints (execute files line) m) ∧
    ((∃ first stopped, StopsAfter m.breakpoints schedule m.console first stopped) →
      ∃ complete made stopped,
        let first := (List.replicate complete
          (Request.frameMoves m.console.stepsPerFrame)).flatten ++ List.replicate made .step
        made < m.console.stepsPerFrame ∧
        StopsAfter m.breakpoints schedule m.console first stopped ∧
        (∀ other console, StopsAfter m.breakpoints schedule m.console other console →
          first <+: other) ∧
        (complete < 10 ^ Numeral.decimalLimit →
          execute files line m = .ok false { m with
            console := stopped
            printed := m.printed.push
              s!"\nBreakpoint hit at {Hexadecimal.address stopped.machine.pc} (frame {complete})"
            }) ∧
        (Attempt.after (execute files line) m).console = stopped) := by
  intro schedule
  have hrunning : m.console.Running m.console.stepsPerFrame := ⟨hm.sound, hloaded, rfl⟩
  have hcases := framesToBreakpoint_cases m.breakpoints 0 frames.toNat hrunning
  rw [← framesWith_of_breakpoints hbreakpoints] at hcases
  rcases hcases with ⟨last, hall, hresult⟩ |
    ⟨complete, hcomplete, made, hmade, stopped, hfirst, hat, hresult⟩
  -- the loop has gone through all frames
  · constructor
    · intro _
      obtain ⟨redraws, hrun⟩ := run_eq_of_performAll hall.performAll_eq
      refine ⟨redraws, last, hrun, hall.performAll_eq, hresult, ?_, ?_, ?_⟩
      · intro number hnumber
        rw [execute_of_framesWith hloaded files hcommand hline hframes hresult,
          endLine_none hnumber]
      · exact console_of_framesWith hloaded files hcommand hline hframes hresult
      · exact execute_eq_ignoringBreakpoints hloaded files hcommand hline hframes hresult hrun
    · rintro ⟨first, stopped, hstop⟩
      exact absurd hstop hall.not_stopsAfter
  -- the loop has stopped, and no shorter beginning of the schedule stops
  · obtain ⟨haddress, hactive⟩ := atBreakpoint_iff.mp hat
    have hstop : StopsAfter m.breakpoints schedule m.console _ stopped :=
      ⟨isPrefix_schedule hcomplete hmade, hfirst.performAll_eq, haddress, hactive⟩
    constructor
    · intro hnone
      exact absurd hstop (hnone _ _)
    · intro _
      rw [Nat.zero_add] at hresult
      refine ⟨complete, made, stopped, hmade, hstop, ?_, ?_, ?_⟩
      · intro other console hother
        exact hfirst.isPrefix_of_stopsAfter ((List.prefix_append _ _).trans hstop.next) hother
      · intro hnumber
        rw [execute_of_framesWith hloaded files hcommand hline hframes hresult,
          endLine_some hnumber]
      · exact console_of_framesWith hloaded files hcommand hline hframes hresult

/-- Three additions and a jump back, two steps to a frame: the breakpoint at the jump
stops the second frame in its middle. -/
theorem run_stops_inside_frame :
    ∃ c : Console Cycle, Console.assemble "chip8" 2 false (.ofList [7]) = .ok c ∧
      let program : List UInt8 := [0x70, 0x01, 0x71, 0x01, 0x72, 0x01, 0x12, 0x00]
      let files := Folder.empty.files
      let m := Attempt.after (execute files "bp 0x206") (observing ((Move.load program).after c))
      let schedule := (Request.run 3).moves m.console.stepsPerFrame
      let first : List Move := [.step, .step, .closeFrame, .step]
      m.Reachable ∧ m.console.loaded = true ∧ m.breakpoints = [0x206] ∧
        MonitorLine.read "run 3" = .command .run "3" ∧ numberOr 60 "3" m = .ok 3 m ∧
        (∃ stopped, StopsAfter m.breakpoints schedule m.console first stopped) ∧
        ∃ (complete : Nat) (stopped : Console Cycle), stopped.machine.pc = 0x206 ∧
          complete < 10 ^ Numeral.decimalLimit ∧
          execute files "run 3" m = .ok false { m with
            console := stopped
            printed := m.printed.push
              s!"\nBreakpoint hit at {Hexadecimal.address stopped.machine.pc} (frame {complete})"
            } := by
  have hassembled : Console.assemble "chip8" 2 false (Cycle.ofList [7]) = .ok _ := rfl
  refine ⟨_, hassembled, ?_⟩
  intro program files m schedule first
  have hreachable : m.Reachable := by
    have hsound := (Console.sound_of_assemble hassembled).after (.load program)
    exact .line (.observing hsound none) files "bp 0x206"
  have hloaded : m.console.loaded = true := by decide +kernel
  have hbreakpoints : m.breakpoints = [0x206] := by decide +kernel
  have hline : MonitorLine.read "run 3" = .command .run "3" := by decide +kernel
  have hframes : numberOr 60 "3" m = .ok 3 m := by
    have hnumber : ¬ trimmed "3" = "" := by decide +kernel
    have hread : readNumber "3" = .ok 3 := rfl
    rw [numberOr, if_neg hnumber, hread]
    rfl
  obtain ⟨hfault, haddress, hactive⟩ :
      Attempt.fault? (Move.performAll first) m.console = none ∧
        (Attempt.after (Move.performAll first) m.console).machine.pc = 0x206 ∧
        (Attempt.after (Move.performAll first) m.console).machine.waiting = false := by
    decide +kernel
  have hsteps : m.console.stepsPerFrame = 2 := by decide +kernel
  have hstop : StopsAfter m.breakpoints schedule m.console first
      (Attempt.after (Move.performAll first) m.console) := by
    refine ⟨?_, Attempt.ok_of_fault?_eq_none hfault, ?_, hactive⟩
    · simp only [schedule, hsteps]
      decide
    · rw [hbreakpoints, haddress]
      decide
  have hsome : m.breakpoints ≠ [] := by
    rw [hbreakpoints]
    decide
  obtain ⟨-, hstopped⟩ := run_stops_at_breakpoint hreachable hloaded hsome files (.inl rfl) hline
    hframes
  obtain ⟨complete, made, stopped, -, hfirst, hleast, hexecute, -⟩ := hstopped ⟨_, _, hstop⟩
  have hcomplete : complete < 10 ^ Numeral.decimalLimit := by
    -- three moves to a frame: no more than one is complete behind four moves
    have hlength : complete * 3 + made ≤ 4 := by
      simpa [hsteps, Request.frameMoves, first] using (hleast _ _ hstop).length_le
    have hone : complete < Numeral.decimalLimit := by
      unfold Numeral.decimalLimit
      omega
    exact hone.trans (Nat.lt_pow_self (by decide))
  have hpc : stopped.machine.pc = 0x206 := by
    have hmem := hfirst.address
    rw [hbreakpoints] at hmem
    exact List.mem_singleton.mp hmem
  exact ⟨hreachable, hloaded, hbreakpoints, hline, hframes, ⟨_, hstop⟩, complete, stopped, hpc,
    hcomplete, hexecute hcomplete⟩

end Monitor

end SuperChip
