import SuperChip.Proofs.FrameEnd
import SuperChip.Proofs.Host

/-!
# The schedule of a console

Whatever a host asks of a console comes down to five moves: loading a program,
holding a key, releasing all keys, one step, and the end of a frame.  A frame is
its steps and then one end of a frame, and a run is so many frames; the moves of
a request are its schedule.

## Strategy

`perform_eq_performAll` says that a request does what its schedule does.  So a
sequence of requests has a `history`: the moves that its requests have come to,
each with the console in front of it.  A request is given up at its first
failing move, which still belongs to the history, and the next request goes on
from there.  The moments of a history follow one another (`Path`), and what is
true of a history is proved by induction along the path.
-/

namespace SuperChip

/-- One of the moves that everything else comes down to. -/
inductive Move where
  | load (program : List UInt8)
  | holdKey (key : Int) (pressed : Bool)
  | releaseKeys
  | step
  | closeFrame
  deriving DecidableEq

/-- What a host may ask of a console. -/
inductive Request where
  | single (move : Move)
  | advanceFrame
  /-- Run frames, none if the number is negative. -/
  | run (frames : Int)

variable {ρ : Type} [Generator ρ]

/-! ## Moves and requests -/

namespace Move

/-- What a move does to a console. -/
def perform : Move → Attempt (Console ρ) Unit
  | load program => Console.load program
  | holdKey key pressed => Console.holdKeyNumber key pressed
  | releaseKeys => modify Console.releaseKeys
  | step => Console.step
  | closeFrame => do
    let _ ← Console.closeFrame
    pure ()

/-- The console after a move, whether it fails or not. -/
def after (move : Move) (c : Console ρ) : Console ρ := Attempt.after move.perform c

/-- Moves one after the other, up to the first that fails. -/
def performAll : List Move → Attempt (Console ρ) Unit
  | [] => pure ()
  | move :: rest => do
    move.perform
    performAll rest

end Move

namespace Request

/-- What a request does to a console. -/
def perform : Request → Attempt (Console ρ) Unit
  | single move => move.perform
  | advanceFrame => do
    let _ ← Console.advanceFrame
    pure ()
  | run frames => do
    let _ ← Console.run frames
    pure ()

/-- The console after a request, whether it fails or not. -/
def after (request : Request) (c : Console ρ) : Console ρ := Attempt.after request.perform c

/-- The moves of one frame of so many steps. -/
def frameMoves (stepsPerFrame : Nat) : List Move :=
  List.replicate stepsPerFrame .step ++ [.closeFrame]

/-- The schedule of a request for a console with so many steps in a frame. -/
def moves (stepsPerFrame : Nat) : Request → List Move
  | single move => [move]
  | advanceFrame => frameMoves stepsPerFrame
  | run frames => (List.replicate frames.toNat (frameMoves stepsPerFrame)).flatten

end Request

/-! ## Histories -/

/-- A move with the console in front of it. -/
structure Moment (ρ : Type) where
  before : Console ρ
  move : Move

/-- The console behind a moment. -/
def Moment.after (moment : Moment ρ) : Console ρ := moment.move.after moment.before

namespace Console

/-- The moments of some moves, up to the first that fails. -/
def moments (c : Console ρ) : List Move → List (Moment ρ)
  | [] => []
  | move :: rest =>
    ⟨c, move⟩ ::
      match move.perform c with
      | .ok _ c => moments c rest
      | .error _ _ => []

/-- The moments of some requests, each of which goes on as far as it can. -/
def history (c : Console ρ) : List Request → List (Moment ρ)
  | [] => []
  | request :: rest =>
    c.moments (request.moves c.stepsPerFrame) ++ (request.after c).history rest

/-- The console after some requests, whether they fail or not. -/
def afterAll (c : Console ρ) : List Request → Console ρ
  | [] => c
  | request :: rest => (request.after c).afterAll rest

end Console

/-- The ends of frames among some moments. -/
def frameEnds (moments : List (Moment ρ)) : List (Moment ρ) :=
  moments.filter fun moment => moment.move = .closeFrame

/-- Moments that follow one another from one console to another. -/
inductive Path : Console ρ → List (Moment ρ) → Console ρ → Prop
  | nil (c : Console ρ) : Path c [] c
  | cons {c d : Console ρ} {move : Move} {rest : List (Moment ρ)}
      (hrest : Path (move.after c) rest d) : Path c (⟨c, move⟩ :: rest) d

theorem Path.append {c d e : Console ρ} {first second : List (Moment ρ)}
    (hfirst : Path c first d) (hsecond : Path d second e) : Path c (first ++ second) e := by
  induction hfirst with
  | nil c => exact hsecond
  | cons _ ih => exact .cons (ih hsecond)

/-! ## A request does what its schedule does -/

namespace Move

theorem performAll_append (first second : List Move) :
    (performAll (first ++ second) : Attempt (Console ρ) Unit) =
      (do performAll first; performAll second) := by
  induction first with
  | nil => simp [performAll]
  | cons move rest ih => simp [performAll, ih]

theorem performAll_replicate_step (count : Nat) :
    (performAll (List.replicate count .step) : Attempt (Console ρ) Unit) =
      Attempt.iterate Console.step count := by
  induction count with
  | zero => rfl
  | succ count ih => simp [List.replicate_succ, performAll, Attempt.iterate, ih, perform]

end Move

namespace Console

omit [Generator ρ] in
theorem load_of_fits (c : Console ρ) {program : List UInt8}
    (hfits : program.length ≤ programLimit) :
    load program c = .ok () { c with
      engine := { c.engine with machine := c.machine.restarted program }
      keypad := releasedKeypad, programSize := program.length
      frames := 0, steps := 0, beeps := 0, loaded := true } := by
  have hengine : onEngine (Engine.restart program) { c with loaded := false } =
      .ok () { c with
        engine := { c.engine with machine := c.machine.restarted program }, loaded := false } :=
    Attempt.onPart_ok (Engine.restart_of_fits c.engine hfits)
  simp only [load, bind, EStateM.bind, Attempt.modify_eq, hengine]

omit [Generator ρ] in
theorem load_of_too_large (c : Console ρ) {program : List UInt8}
    (hsize : programLimit < program.length) :
    load program c = .error (.programTooLarge program.length) { c with loaded := false } := by
  have hengine : onEngine (Engine.restart program) { c with loaded := false } =
      .error (.programTooLarge program.length) { c with loaded := false } :=
    Attempt.onPart_error (Engine.restart_of_too_large c.engine hsize)
  simp only [load, bind, EStateM.bind, Attempt.modify_eq, hengine]

theorem step_of_not_loaded {c : Console ρ} (h : c.loaded = false) :
    step c = .error .noProgram c := by
  simp [step, requireProgram, bind, EStateM.bind, h]

theorem step_ok {c : Console ρ} {e : Engine ρ} (h : c.loaded = true)
    (hstep : Engine.step c.showKeypad.engine = .ok () e) :
    step c = .ok () { c with engine := e, steps := c.steps + 1 } := by
  have hengine : onEngine Engine.step c.showKeypad = .ok () { c with engine := e } :=
    Attempt.onPart_ok hstep
  simp only [step, requireProgram, bind, EStateM.bind, h, if_true, Attempt.modify_eq,
    hengine]

theorem step_error {c : Console ρ} {e : Engine ρ} {fault : Fault} (h : c.loaded = true)
    (hstep : Engine.step c.showKeypad.engine = .error fault e) :
    step c = .error fault { c with engine := e } := by
  have hengine : onEngine Engine.step c.showKeypad = .error fault { c with engine := e } :=
    Attempt.onPart_error hstep
  simp only [step, requireProgram, bind, EStateM.bind, h, if_true, Attempt.modify_eq,
    hengine]

theorem advanceFrame_of_not_loaded {c : Console ρ} (h : c.loaded = false) :
    advanceFrame c = .error .noProgram c := by
  simp [advanceFrame, requireProgram, bind, EStateM.bind, h]

theorem advanceFrame_of_loaded {c : Console ρ} (h : c.loaded = true) :
    advanceFrame c = (do Attempt.iterate step c.stepsPerFrame; closeFrame) c := by
  simp [advanceFrame, requireProgram, bind, EStateM.bind, h]

/-- Without a program not even the first step of a frame succeeds, and a frame
has a first step. -/
theorem performAll_frameMoves_of_not_loaded {c : Console ρ} (h : c.loaded = false) :
    Move.performAll (Request.frameMoves c.stepsPerFrame) c = .error .noProgram c := by
  have hpos := c.stepsPerFrame_pos
  obtain ⟨count, hcount⟩ : ∃ count, c.stepsPerFrame = count + 1 :=
    ⟨c.stepsPerFrame - 1, by omega⟩
  rw [hcount, Request.frameMoves, List.replicate_succ, List.cons_append]
  simp only [Move.performAll, Move.perform, bind, EStateM.bind, step_of_not_loaded h]

/-- A frame does what its schedule does. -/
theorem advanceFrame_eq_performAll (c : Console ρ) :
    Request.advanceFrame.perform c =
      Move.performAll (Request.frameMoves c.stepsPerFrame) c := by
  cases hloaded : c.loaded with
  | false =>
      rw [performAll_frameMoves_of_not_loaded hloaded]
      simp only [Request.perform, bind, EStateM.bind, advanceFrame_of_not_loaded hloaded]
  | true =>
      have hframe : Request.advanceFrame.perform c =
          (do Attempt.iterate step c.stepsPerFrame; Move.closeFrame.perform) c := by
        simp only [Request.perform, Move.perform, bind, EStateM.bind,
          advanceFrame_of_loaded hloaded]
        cases Attempt.iterate step c.stepsPerFrame c <;> rfl
      rw [hframe, Request.frameMoves, Move.performAll_append, Move.performAll_replicate_step]
      rfl

end Console

/-! ## What a move does to a console -/

namespace Move

variable (c : Console ρ)

theorem after_holdKey (key : Int) (pressed : Bool) :
    ∃ keypad, (holdKey key pressed).after c = { c with keypad := keypad } := by
  simp only [after, Attempt.after, perform, Console.holdKeyNumber]
  split
  · rename_i hresult
    split at hresult
    · cases hresult
      exact ⟨_, rfl⟩
    · cases hresult
  · rename_i hresult
    split at hresult
    · cases hresult
    · cases hresult
      exact ⟨c.keypad, rfl⟩

theorem after_releaseKeys :
    releaseKeys.after c = { c with keypad := Console.releasedKeypad } := rfl

theorem after_closeFrame : closeFrame.after c = c.frameEnded.2 := rfl

theorem after_step_of_not_loaded (h : c.loaded = false) : step.after c = c := by
  simp only [after, Attempt.after, perform, Console.step_of_not_loaded h]

/-- A step changes the engine and counts itself if it succeeds. -/
theorem after_step_of_loaded (h : c.loaded = true) :
    step.after c =
      { c with
        engine := c.showKeypad.engine.after .step
        steps := if (c.showKeypad.engine.fault? .step).isNone then c.steps + 1 else c.steps } := by
  cases hstep : Engine.step c.showKeypad.engine with
  | ok value e =>
      simp only [after, Attempt.after, perform, Console.step_ok h hstep, Engine.after,
        Engine.fault?, Attempt.fault?, Engine.perform, hstep, Option.isNone_none, if_true]
  | error fault e =>
      simp only [after, Attempt.after, perform, Console.step_error h hstep, Engine.after,
        Engine.fault?, Attempt.fault?, Engine.perform, hstep, Option.isNone_some,
        Bool.false_eq_true, if_false]

theorem after_load_of_fits {program : List UInt8} (hfits : program.length ≤ programLimit) :
    (load program).after c =
      { c with
        engine := { c.engine with machine := c.machine.restarted program }
        keypad := Console.releasedKeypad, programSize := program.length
        frames := 0, steps := 0, beeps := 0, loaded := true } := by
  simp only [after, Attempt.after, perform, Console.load_of_fits c hfits]

theorem after_load_of_too_large {program : List UInt8} (hsize : programLimit < program.length) :
    (load program).after c = { c with loaded := false } := by
  simp only [after, Attempt.after, perform, Console.load_of_too_large c hsize]

/-! ## What no move changes -/

theorem stepsPerFrame_after (move : Move) : (move.after c).stepsPerFrame = c.stepsPerFrame := by
  cases move with
  | load program =>
      by_cases hfits : program.length ≤ programLimit
      · rw [after_load_of_fits c hfits]
      · rw [after_load_of_too_large c (by omega)]
  | holdKey key pressed =>
      obtain ⟨keypad, hkeypad⟩ := after_holdKey c key pressed
      rw [hkeypad]
  | releaseKeys => rw [after_releaseKeys]
  | step =>
      cases hloaded : c.loaded with
      | false => rw [after_step_of_not_loaded c hloaded]
      | true => rw [after_step_of_loaded c hloaded]
  | closeFrame =>
      rw [after_closeFrame, Console.frameEnded_eq]

end Move

/-! ## Paths -/

theorem Path.stepsPerFrame {c d : Console ρ} {path : List (Moment ρ)} (h : Path c path d) :
    d.stepsPerFrame = c.stepsPerFrame := by
  induction h with
  | nil c => rfl
  | cons _ ih => rw [ih, Move.stepsPerFrame_after]

/-- The moments of some moves lead to where the moves lead. -/
theorem path_moments (c : Console ρ) (moves : List Move) :
    Path c (c.moments moves) (Attempt.after (Move.performAll moves) c) := by
  induction moves generalizing c with
  | nil => exact .nil c
  | cons move rest ih =>
      refine .cons ?_
      cases hmove : move.perform c with
      | ok value d =>
          have hafter : move.after c = d := by simp only [Move.after, Attempt.after, hmove]
          have hrest : Attempt.after (Move.performAll (move :: rest)) c =
              Attempt.after (Move.performAll rest) d := by
            simp only [Attempt.after, Move.performAll, bind, EStateM.bind, hmove]
          rw [hafter, hrest]
          exact ih d
      | error fault d =>
          have hafter : move.after c = d := by simp only [Move.after, Attempt.after, hmove]
          have hrest : Attempt.after (Move.performAll (move :: rest)) c = d := by
            simp only [Attempt.after, Move.performAll, bind, EStateM.bind, hmove]
          rw [hafter, hrest]
          -- the moves behind the one that fails are given up
          exact .nil d

/-- A run does what the schedules of its frames do, however many of the frames
before had a changed picture. -/
private theorem runFrom_eq_performAll (redraws frames : Nat) (c : Console ρ) :
    (do let _ ← Console.runFrom redraws frames; pure () : Attempt (Console ρ) Unit) c =
      Move.performAll
        (List.replicate frames (Request.frameMoves c.stepsPerFrame)).flatten c := by
  induction frames generalizing redraws c with
  | zero => rfl
  | succ frames ih =>
      rw [List.replicate_succ, List.flatten_cons, Move.performAll_append]
      have hframe := c.advanceFrame_eq_performAll
      simp only [Request.perform, bind, EStateM.bind] at hframe
      simp only [Console.runFrom, bind, EStateM.bind, ← hframe]
      cases hresult : Console.advanceFrame c with
      | ok redraw d =>
          have hpath := path_moments c (Request.frameMoves c.stepsPerFrame)
          have hafter :
              Attempt.after (Move.performAll (Request.frameMoves c.stepsPerFrame)) c = d := by
            simp only [Attempt.after, ← hframe, hresult]
            rfl
          rw [hafter] at hpath
          -- the frames that are left have as many steps as this one had
          rw [← hpath.stepsPerFrame]
          exact ih _ d
      | error fault d => rfl

/-- A request does what its schedule does. -/
theorem Request.perform_eq_performAll (request : Request) (c : Console ρ) :
    request.perform c = Move.performAll (request.moves c.stepsPerFrame) c := by
  cases request with
  | single move =>
      simp only [perform, moves, Move.performAll, bind, EStateM.bind]
      cases move.perform c <;> rfl
  | advanceFrame => exact c.advanceFrame_eq_performAll
  | run frames => exact runFrom_eq_performAll 0 frames.toNat c

/-- The history of some requests leads to where the requests lead. -/
theorem path_history (c : Console ρ) (requests : List Request) :
    Path c (c.history requests) (c.afterAll requests) := by
  induction requests generalizing c with
  | nil => exact .nil c
  | cons request rest ih =>
      have hrequest : Attempt.after (Move.performAll (request.moves c.stepsPerFrame)) c =
          request.after c := by
        simp only [Request.after, Attempt.after, request.perform_eq_performAll]
      have hpath := path_moments c (request.moves c.stepsPerFrame)
      rw [hrequest] at hpath
      exact hpath.append (ih _)

/-! ## The end of a frame in a history -/

theorem frameEnds_cons_of_ne {ρ : Type} {c : Console ρ} {move : Move} (hmove : move ≠ .closeFrame)
    (rest : List (Moment ρ)) : frameEnds (⟨c, move⟩ :: rest) = frameEnds rest := by
  simp [frameEnds, hmove]

theorem frameEnds_append {ρ : Type} (first second : List (Moment ρ)) :
    frameEnds (first ++ second) = frameEnds first ++ frameEnds second := by
  rw [frameEnds, List.filter_append]
  rfl

namespace Console

theorem history_append (c : Console ρ) (first second : List Request) :
    c.history (first ++ second) = c.history first ++ (c.afterAll first).history second := by
  induction first generalizing c with
  | nil => rfl
  | cons request rest ih =>
      simp only [List.cons_append, history, afterAll, ih, List.append_assoc]

theorem moments_append_of_ok {c d : Console ρ} {first : List Move}
    (hfirst : Move.performAll first c = .ok () d) (second : List Move) :
    c.moments (first ++ second) = c.moments first ++ d.moments second := by
  induction first generalizing c with
  | nil =>
      cases hfirst
      rfl
  | cons move rest ih =>
      simp only [Move.performAll, bind, EStateM.bind] at hfirst
      simp only [List.cons_append, moments]
      cases hmove : move.perform c with
      | ok value next =>
          rw [hmove] at hfirst
          simp only [ih hfirst]
      | error fault next =>
          rw [hmove] at hfirst
          cases hfirst

theorem move_mem_of_mem_moments {c : Console ρ} {moves : List Move} {moment : Moment ρ}
    (hmoment : moment ∈ c.moments moves) : moment.move ∈ moves := by
  induction moves generalizing c with
  | nil => cases hmoment
  | cons move rest ih =>
      simp only [moments, List.mem_cons] at hmoment
      rcases hmoment with hfirst | hrest
      · rw [hfirst]
        exact List.mem_cons_self
      · split at hrest
        · exact List.mem_cons_of_mem _ (ih hrest)
        · cases hrest

/-- No frame ends among steps. -/
theorem frameEnds_moments_replicate_step (c : Console ρ) (count : Nat) :
    frameEnds (c.moments (List.replicate count .step)) = [] := by
  refine List.filter_eq_nil_iff.mpr fun moment hmoment => ?_
  rw [List.eq_of_mem_replicate (move_mem_of_mem_moments hmoment)]
  decide

/-- A frame that comes to its end has one end, and reports what that reports. -/
theorem frameEnds_of_advanceFrame {c d : Console ρ} {changed : Bool}
    (hframe : advanceFrame c = .ok changed d) :
    ∃ before, frameEnds (c.history [.advanceFrame]) = [⟨before, .closeFrame⟩] ∧
      closeFrame before = .ok changed d := by
  have hloaded : c.loaded = true := by
    cases hloaded : c.loaded with
    | false =>
        rw [advanceFrame_of_not_loaded hloaded] at hframe
        cases hframe
    | true => rfl
  rw [advanceFrame_of_loaded hloaded, ← Move.performAll_replicate_step] at hframe
  simp only [bind, EStateM.bind] at hframe
  cases hsteps : Move.performAll (List.replicate c.stepsPerFrame .step) c with
  | error fault before =>
      rw [hsteps] at hframe
      cases hframe
  | ok value before =>
      rw [hsteps] at hframe
      refine ⟨before, ?_, hframe⟩
      have hmoments := moments_append_of_ok hsteps [.closeFrame]
      show frameEnds (c.moments (Request.frameMoves c.stepsPerFrame) ++ []) = _
      rw [List.append_nil, Request.frameMoves, hmoments, frameEnds_append,
        frameEnds_moments_replicate_step, List.nil_append]
      rfl

end Console

end SuperChip
