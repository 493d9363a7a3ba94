import SuperChip.Proofs.Accounting
import SuperChip.Proofs.HeadlessRun
import SuperChip.Proofs.Redraw

/-!
# What a recorder has kept

A recorder that listens to a console hears of each end of a frame that reports a changed
picture, and it keeps the last of these pictures, as many as it is told to, or all of
them.  This file says so of every moment of a history, also of those in the middle of a
frame or of a run, and compares the pictures that a run adds with the number that it
returns.

## Strategy

`changedFrames` reads the pictures off a history, without looking at any recorder.  One
more frame that is recorded is one more frame of which the last are kept
(`Recorder.snapshots_record`), so that each move keeps `Recording`: what was recorded
before, together with what the move itself reports.  The rest is the path of the moves.
For the number that a run returns, each frame is cut out of the schedule of the run, and
it has one end (`frameEnds_of_advanceFrame`).
-/

namespace SuperChip

/-! ## Keeping the last frames -/

namespace Recorder

/-- What is kept of some frames: the last ones, so many of them, or all if the number is
zero. -/
def kept (keep : Int) (frames : List (List UInt8)) : List (List UInt8) :=
  if keep = 0 then frames else frames.drop (frames.length - keep.toNat)

@[simp] theorem kept_nil (keep : Int) : kept keep [] = [] := by
  simp [kept]

/-- Forgetting the first frame when there are too many is keeping the last ones. -/
theorem snapshots_record {recorder : Recorder} (hkeep : 0 ≤ recorder.keep)
    {frames : List (List UInt8)} (hkept : recorder.snapshots = kept recorder.keep frames)
    (frame : List UInt8) :
    (recorder.record frame).snapshots = kept recorder.keep (frames ++ [frame]) := by
  by_cases hall : recorder.keep = 0
  · have hfew : ¬ (recorder.keep ≠ 0 ∧
        recorder.keep < ((recorder.snapshots ++ [frame]).length : Int)) := fun h => h.1 hall
    simp only [record, if_neg hfew]
    rw [kept, if_pos hall, hkept, kept, if_pos hall]
  · rw [kept, if_neg hall] at hkept
    have hlength : (recorder.snapshots ++ [frame]).length =
        frames.length - (frames.length - recorder.keep.toNat) + 1 := by
      rw [hkept, List.length_append, List.length_drop, List.length_singleton]
    rw [kept, if_neg hall, List.length_append, List.length_singleton]
    -- a recorder that is full forgets its first frame for the new one
    by_cases hfull : recorder.keep ≤ frames.length
    · have htoo : recorder.keep ≠ 0 ∧
          recorder.keep < ((recorder.snapshots ++ [frame]).length : Int) :=
        ⟨hall, by omega⟩
      have hnext : frames.length + 1 - recorder.keep.toNat =
          frames.length - recorder.keep.toNat + 1 := by omega
      simp only [record, if_pos htoo]
      rw [hkept, List.drop_append_of_le_length (by rw [List.length_drop]; omega), List.drop_drop,
        hnext, List.drop_append_of_le_length (by omega)]
    · have hfew : ¬ (recorder.keep ≠ 0 ∧
          recorder.keep < ((recorder.snapshots ++ [frame]).length : Int)) := by omega
      have hnone : frames.length - recorder.keep.toNat = 0 := by omega
      have hnone' : frames.length + 1 - recorder.keep.toNat = 0 := by omega
      simp only [record, if_neg hfew]
      rw [hkept, hnone, hnone', List.drop_zero, List.drop_zero]

end Recorder

/-! ## The frames that a history reports as changed -/

section Changed

variable {ρ : Type}

/-- A moment is the end of a frame that reports a changed picture. -/
def Moment.redraws (moment : Moment ρ) : Bool :=
  match moment.move, Console.closeFrame moment.before with
  | .closeFrame, .ok changed _ => changed
  | _, _ => false

theorem Moment.redraws_closeFrame (c : Console ρ) :
    Moment.redraws ⟨c, .closeFrame⟩ = c.machine.redraw := by
  simp only [Moment.redraws, c.closeFrame_eq]

theorem Moment.redraws_of_ne {c : Console ρ} {move : Move} (hmove : move ≠ .closeFrame) :
    Moment.redraws ⟨c, move⟩ = false := by
  cases move with
  | closeFrame => exact absurd rfl hmove
  | _ => rfl

variable [Generator ρ]

/-- The pictures that the ends of frames have reported as changed, the last one at the
end. -/
def changedFrames (moments : List (Moment ρ)) : List (List UInt8) :=
  (moments.filter Moment.redraws).map fun moment => moment.after.machine.framePixels

theorem changedFrames_append (first second : List (Moment ρ)) :
    changedFrames (first ++ second) = changedFrames first ++ changedFrames second := by
  rw [changedFrames, List.filter_append, List.map_append]
  rfl

theorem changedFrames_cons (moment : Moment ρ) (rest : List (Moment ρ)) :
    changedFrames (moment :: rest) = changedFrames [moment] ++ changedFrames rest :=
  changedFrames_append [moment] rest

theorem changedFrames_closeFrame (c : Console ρ) :
    changedFrames [⟨c, .closeFrame⟩] =
      if c.machine.redraw then [c.machine.framePixels] else [] := by
  have hpixels : (Moment.mk c .closeFrame).after.machine.framePixels = c.machine.framePixels :=
    c.framePixels_frameEnded
  rw [changedFrames, List.filter_singleton, Moment.redraws_closeFrame]
  cases c.machine.redraw with
  | true => exact congrArg (fun pixels => [pixels]) hpixels
  | false => rfl

theorem changedFrames_of_ne {c : Console ρ} {move : Move} (hmove : move ≠ .closeFrame) :
    changedFrames [⟨c, move⟩] = [] := by
  rw [changedFrames, List.filter_singleton, Moment.redraws_of_ne hmove]
  rfl

/-- Only the ends of frames report anything. -/
theorem changedFrames_frameEnds (moments : List (Moment ρ)) :
    changedFrames (frameEnds moments) = changedFrames moments := by
  induction moments with
  | nil => rfl
  | cons moment rest ih =>
      obtain ⟨c, move⟩ := moment
      rw [changedFrames_cons ⟨c, move⟩ rest]
      by_cases hmove : move = .closeFrame
      · subst hmove
        have hends : frameEnds (⟨c, .closeFrame⟩ :: rest) = [⟨c, .closeFrame⟩] ++ frameEnds rest :=
          frameEnds_append [_] rest
        rw [hends, changedFrames_append, ih]
      · rw [frameEnds_cons_of_ne hmove, changedFrames_of_ne hmove, List.nil_append, ih]

end Changed

/-! ## Recording along a path -/

namespace Console

/-- A recorder listens, with a limit, and has kept what it should of some frames. -/
structure Recording {ρ : Type} (c : Console ρ) (id : Nat) (keep : Int)
    (frames : List (List UInt8)) : Prop where
  listener : c.frameListener = .recorder id
  recorder : ∃ recorder, c.recorders[id]? = some recorder ∧ recorder.keep = keep ∧
    recorder.snapshots = Recorder.kept keep frames

/-- The snapshots of a recorder. -/
def snapshots? {ρ : Type} (c : Console ρ) (id : Nat) : Option (List (List UInt8)) :=
  c.recorders[id]?.map Recorder.snapshots

namespace Recording

variable {ρ : Type} {c d : Console ρ} {id : Nat} {keep : Int} {frames : List (List UInt8)}

theorem snapshots_eq (h : c.Recording id keep frames) :
    c.snapshots? id = some (Recorder.kept keep frames) := by
  obtain ⟨recorder, hrecorder, -, hsnapshots⟩ := h.recorder
  rw [snapshots?, hrecorder, Option.map_some, hsnapshots]

theorem frameEnded (h : c.Recording id keep frames) (hkeep : 0 ≤ keep) :
    c.frameEnded.2.Recording id keep
      (frames ++ if c.machine.redraw then [c.machine.framePixels] else []) where
  listener := by
    rw [frameEnded_eq]
    exact h.listener
  recorder := by
    obtain ⟨recorder, hrecorder, rfl, hsnapshots⟩ := h.recorder
    rw [recorders_frameEnded h.listener]
    by_cases hredraw : c.machine.redraw = true
    · rw [if_pos hredraw, if_pos hredraw]
      refine ⟨recorder.record c.machine.framePixels, ?_, rfl,
        Recorder.snapshots_record hkeep hsnapshots _⟩
      simp [Array.getElem?_modify, hrecorder]
    · rw [if_neg hredraw, if_neg hredraw, List.append_nil]
      exact ⟨recorder, hrecorder, rfl, hsnapshots⟩

variable [Generator ρ]

theorem after (h : c.Recording id keep frames) (hkeep : 0 ≤ keep) (move : Move) :
    (move.after c).Recording id keep (frames ++ changedFrames [⟨c, move⟩]) := by
  by_cases hmove : move = .closeFrame
  · subst hmove
    rw [changedFrames_closeFrame]
    exact h.frameEnded hkeep
  · have hquiet := move.quiet_after hmove c
    rw [changedFrames_of_ne hmove, List.append_nil]
    exact ⟨hquiet.frameListener.trans h.listener, hquiet.recorders ▸ h.recorder⟩

theorem of_path {path : List (Moment ρ)} (h : c.Recording id keep frames) (hkeep : 0 ≤ keep)
    (hpath : Path c path d) : d.Recording id keep (frames ++ changedFrames path) := by
  induction hpath generalizing frames with
  | nil c =>
      rw [show changedFrames ([] : List (Moment ρ)) = [] from rfl, List.append_nil]
      exact h
  | @cons c d move rest hrest ih =>
      rw [changedFrames_cons, ← List.append_assoc]
      exact ih (h.after hkeep move)

end Recording

/-! ## What a run returns -/

variable {ρ : Type} [Generator ρ] {c d : Console ρ}

/-- A frame reports a change if it adds a picture. -/
theorem length_changedFrames_frame {changed : Bool} (hframe : advanceFrame c = .ok changed d) :
    (changedFrames (c.moments (Request.frameMoves c.stepsPerFrame))).length =
      if changed then 1 else 0 := by
  obtain ⟨before, hends, hclose⟩ := frameEnds_of_advanceFrame hframe
  have hhistory : c.history [.advanceFrame] = c.moments (Request.frameMoves c.stepsPerFrame) :=
    List.append_nil _
  rw [closeFrame_eq] at hclose
  cases hclose
  rw [← hhistory, ← changedFrames_frameEnds, hends, changedFrames_closeFrame]
  cases before.machine.redraw with
  | true => rfl
  | false => rfl

/-- A run adds the pictures of its frames to those that it had counted. -/
theorem eq_add_of_runFrom {redraws frames total : Nat}
    (hrun : runFrom redraws frames c = .ok total d) :
    total = redraws + (changedFrames (c.moments
      (List.replicate frames (Request.frameMoves c.stepsPerFrame)).flatten)).length := by
  induction frames generalizing redraws c with
  | zero =>
      cases hrun
      rfl
  | succ frames ih =>
      simp only [runFrom, bind, EStateM.bind] at hrun
      cases hframe : advanceFrame c with
      | error fault next =>
          rw [hframe] at hrun
          cases hrun
      | ok changed next =>
          rw [hframe] at hrun
          have hmoves : Move.performAll (Request.frameMoves c.stepsPerFrame) c = .ok () next := by
            rw [← advanceFrame_eq_performAll]
            simp only [Request.perform, bind, EStateM.bind, hframe]
            rfl
          have hsteps : next.stepsPerFrame = c.stepsPerFrame := by
            have hpath := path_moments c (Request.frameMoves c.stepsPerFrame)
            rw [Attempt.after_eq_of_ok hmoves] at hpath
            exact hpath.stepsPerFrame
          have hrest := ih hrun
          rw [hsteps] at hrest
          rw [List.replicate_succ, List.flatten_cons, moments_append_of_ok hmoves,
            changedFrames_append, List.length_append, length_changedFrames_frame hframe, hrest]
          cases changed with
          | true => exact Nat.add_assoc _ _ _
          | false => rw [if_neg Bool.false_ne_true, if_neg Bool.false_ne_true, Nat.zero_add]

theorem eq_length_of_run {frames : Int} {redraws : Nat} (hrun : run frames c = .ok redraws d) :
    redraws = (changedFrames (c.history [.run frames])).length := by
  have hhistory : c.history [.run frames] =
      c.moments (List.replicate frames.toNat (Request.frameMoves c.stepsPerFrame)).flatten :=
    List.append_nil _
  rw [eq_add_of_runFrom hrun, hhistory, Nat.zero_add]

theorem Sound.of_path {path : List (Moment ρ)} (h : c.Sound) (hpath : Path c path d) :
    d.Sound := by
  induction hpath with
  | nil c => exact h
  | cons _ ih => exact ih (h.after _)

theorem Sound.addRecorder (h : c.Sound) (keep : Int) : (c.addRecorder keep).Sound := h

theorem Sound.startRecorder (h : c.Sound) (id : Nat) : (c.startRecorder id).Sound := h

/-- **A recorder has kept the last frames that changed.**  Start a recorder that has kept
what it should of some frames; a fresh one has kept nothing of none.  Whatever the host
asks for then, the snapshots of the recorder are at every moment the last ones of all
frames so far, as many as it keeps: those before, and behind them, in order, the picture
at each end of a frame since that reported a change.  A run returns the number of pictures
that its frames add, and with a program in a sound console it does return. -/
theorem snapshots_are_last_changed (c : Console ρ) (id : Nat) {recorder : Recorder}
    (hrecorder : c.recorders[id]? = some recorder) (hkeep : 0 ≤ recorder.keep)
    {past : List (List UInt8)} (hpast : recorder.snapshots = Recorder.kept recorder.keep past)
    (requests : List Request) :
    let started := c.startRecorder id
    let history := started.history requests
    let now := started.afterAll requests
    now.snapshots? id = some (Recorder.kept recorder.keep (past ++ changedFrames history)) ∧
    (∀ earlier moment later, history = earlier ++ moment :: later →
      moment.before.snapshots? id =
        some (Recorder.kept recorder.keep (past ++ changedFrames earlier))) ∧
    (∀ frames redraws last, run frames now = .ok redraws last →
      redraws = (changedFrames (now.history [.run frames])).length) ∧
    (c.Sound → now.loaded = true →
      ∀ frames, ∃ redraws last, run frames now = .ok redraws last) := by
  intro started history now
  have hpath : Path started history now := path_history started requests
  -- starting a recorder changes none of its frames
  have hstarted : started.Recording id recorder.keep past := by
    refine ⟨rfl, { recorder with replaced := c.frameListener }, ?_, rfl, hpast⟩
    simp [started, startRecorder, Array.getElem?_modify, hrecorder]
  refine ⟨(hstarted.of_path hkeep hpath).snapshots_eq, ?_, ?_, ?_⟩
  · intro earlier moment later hsplit
    rw [hsplit] at hpath
    exact (hstarted.of_path hkeep hpath.cut.1).snapshots_eq
  · intro frames redraws last hrun
    exact eq_length_of_run hrun
  · intro hsound hloaded frames
    have hnow : now.Sound := (hsound.startRecorder id).of_path hpath
    exact Running.exists_run ⟨hnow, hloaded, rfl⟩ frames

/-- A program switches the resolution to and fro, an instruction a frame, and a recorder
keeps one picture.  The host ends the second frame by hand; in the third one the program
only jumps, so that there is no picture to record. -/
theorem snapshots_are_last_changed_in_loop :
    ∃ c : Console Cycle, assemble "schip" 1 true (.ofList [7]) = .ok c ∧
      let program : List UInt8 := [0x00, 0xFF, 0x00, 0xFE, 0x12, 0x00]
      let recording := ((Move.load program).after c).addRecorder 1
      let requests : List Request := [.advanceFrame, .single .step, .single .closeFrame, .run 1]
      let started := recording.startRecorder 0
      let now := started.afterAll requests
      recording.recorders[0]? = some (.fresh 1) ∧ 0 ≤ (Recorder.fresh 1).keep ∧
        (Recorder.fresh 1).snapshots = Recorder.kept 1 [] ∧
        (changedFrames (started.history requests)).length = 2 ∧
        now.snapshots? 0 = some ((changedFrames (started.history requests)).drop 1) ∧
        recording.Sound ∧ now.loaded = true ∧
        ∃ redraws last, run 2 now = .ok redraws last ∧
          redraws = (changedFrames (now.history [.run 2])).length := by
  have hassemble : assemble "schip" 1 true (Cycle.ofList [7]) = .ok _ := rfl
  refine ⟨_, hassemble, ?_⟩
  intro program recording requests started now
  have hsound : recording.Sound :=
    ((sound_of_assemble hassemble).after (.load program)).addRecorder 1
  obtain ⟨hrecorder, hlength, hloaded⟩ : recording.recorders[0]? = some (.fresh 1) ∧
      (changedFrames (started.history requests)).length = 2 ∧
      now.loaded = true := by
    decide +kernel
  have hpast : (Recorder.fresh 1).snapshots = Recorder.kept 1 [] := (Recorder.kept_nil 1).symm
  obtain ⟨hsnapshots, -, hcount, hruns⟩ :=
    snapshots_are_last_changed recording 0 hrecorder (by decide) hpast requests
  obtain ⟨redraws, last, hrun⟩ := hruns hsound hloaded 2
  refine ⟨hrecorder, by decide, hpast, hlength, ?_, hsound, hloaded, redraws, last, hrun,
    hcount 2 redraws last hrun⟩
  rw [hsnapshots, List.nil_append, Recorder.kept, if_neg (by decide), hlength]
  rfl

end Console

end SuperChip
