import Mathlib.Data.List.Chain
import SuperChip.Proofs.PictureSignal
import SuperChip.Proofs.Schedule

/-!
# No redraw is lost

A recorder that listens to a console keeps the picture of every frame that has
changed it.  This file proves that it never misses one: from the first program
that is loaded while it listens, its last snapshot after the end of a frame is
the picture that the machine shows there, whatever the host has asked for in
between.

## Strategy

The invariant is `UpToDate`: the machine gives the signal of a changed picture,
or the last snapshot shows its picture.  Loading a program gives the signal.
Every move other than the end of a frame keeps the invariant because it signals
what it changes (`Move.quiet_after`); the end of a frame passes a signal on to
the recorder and takes it away, and without a signal it has nothing to pass on.

The same relation between machines, followed from one end of a frame to the
next, says when a frame is reported as changed (`Path.chain_frameEnds`).
-/

namespace SuperChip

theorem Recorder.getLast?_record {recorder : Recorder} (hkeep : 0 ≤ recorder.keep)
    (frame : List UInt8) : (recorder.record frame).snapshots.getLast? = some frame := by
  simp only [record]
  split
  · rename_i hfull
    have hlong : 1 ≤ recorder.snapshots.length := by
      have hlength := hfull.2
      simp only [List.length_append, List.length_singleton] at hlength
      omega
    rw [List.drop_append_of_le_length hlong, List.getLast?_concat]
  · rw [List.getLast?_concat]

namespace Console

variable {ρ : Type}

/-- The last snapshot of a recorder. -/
def latest? (c : Console ρ) (id : Nat) : Option (List UInt8) :=
  c.recorders[id]?.bind fun recorder => recorder.snapshots.getLast?

/-- A recorder that keeps what it hears of listens. -/
structure Watched (c : Console ρ) (id : Nat) : Prop where
  listener : c.frameListener = .recorder id
  recorder : ∃ recorder, c.recorders[id]? = some recorder ∧ 0 ≤ recorder.keep

/-- A recorder has the picture of the machine, or will hear of it. -/
def UpToDate (c : Console ρ) (id : Nat) : Prop :=
  c.machine.redraw = true ∨ c.latest? id = some c.machine.framePixels

theorem watched_startRecorder {c : Console ρ} {id : Nat} {recorder : Recorder}
    (hrecorder : c.recorders[id]? = some recorder) (hkeep : 0 ≤ recorder.keep) :
    (c.startRecorder id).Watched id where
  listener := rfl
  recorder := by
    refine ⟨{ recorder with replaced := c.frameListener }, ?_, hkeep⟩
    simp [startRecorder, Array.getElem?_modify, hrecorder]

/-! ## The end of a frame -/

theorem redraw_frameEnded (c : Console ρ) : c.frameEnded.2.machine.redraw = false := by
  rw [frameEnded_eq]
  rfl

theorem framePixels_frameEnded (c : Console ρ) :
    c.frameEnded.2.machine.framePixels = c.machine.framePixels := by
  rw [frameEnded_eq]
  rfl

theorem resolution_frameEnded (c : Console ρ) :
    c.frameEnded.2.machine.resolution = c.machine.resolution := by
  rw [frameEnded_eq]
  rfl

/-- The end of a frame reports that the picture has changed if the machine gave
the signal. -/
theorem closeFrame_eq (c : Console ρ) :
    closeFrame c = .ok c.machine.redraw c.frameEnded.2 := by
  simp only [closeFrame, frameEnded_eq]

theorem recorders_frameEnded {c : Console ρ} {id : Nat}
    (hlistener : c.frameListener = .recorder id) :
    c.frameEnded.2.recorders =
      if c.machine.redraw then c.recorders.modify id fun r => r.record c.machine.framePixels
      else c.recorders := by
  rw [frameEnded_eq]
  simp only [recordersHearing, hlistener]

theorem watched_frameEnded {c : Console ρ} {id : Nat} (h : c.Watched id) :
    c.frameEnded.2.Watched id where
  listener := by
    rw [frameEnded_eq]
    exact h.listener
  recorder := by
    obtain ⟨recorder, hrecorder, hkeep⟩ := h.recorder
    rw [recorders_frameEnded h.listener]
    split
    · refine ⟨recorder.record c.machine.framePixels, ?_, hkeep⟩
      simp [Array.getElem?_modify, hrecorder]
    · exact ⟨recorder, hrecorder, hkeep⟩

/-- After the end of a frame the last snapshot shows the picture. -/
theorem latest_frameEnded {c : Console ρ} {id : Nat} (hwatched : c.Watched id)
    (hupToDate : c.UpToDate id) :
    c.frameEnded.2.latest? id = some c.frameEnded.2.machine.framePixels := by
  obtain ⟨recorder, hrecorder, hkeep⟩ := hwatched.recorder
  rw [framePixels_frameEnded, latest?, recorders_frameEnded hwatched.listener]
  cases hredraw : c.machine.redraw with
  | true =>
      simp [Array.getElem?_modify, hrecorder, Recorder.getLast?_record hkeep]
  | false =>
      rcases hupToDate with hsignal | hlatest
      · rw [hredraw] at hsignal
        cases hsignal
      · simpa [latest?] using hlatest

end Console

/-! ## The other moves -/

variable {ρ : Type} [Generator ρ]

/-- What a move other than the end of a frame does with the picture: it signals
a change, and the listener and the recorders stay as they are. -/
structure Quiet (before after : Console ρ) : Prop where
  signals : Machine.Signals before.machine after.machine
  frameListener : after.frameListener = before.frameListener
  recorders : after.recorders = before.recorders

theorem Move.quiet_after {move : Move} (hmove : move ≠ .closeFrame) (c : Console ρ) :
    Quiet c (move.after c) := by
  cases move with
  | load program =>
      by_cases hfits : program.length ≤ programLimit
      · rw [after_load_of_fits c hfits]
        exact ⟨.inl rfl, rfl, rfl⟩
      · rw [after_load_of_too_large c (by omega)]
        exact ⟨.inr (.refl _), rfl, rfl⟩
  | holdKey key pressed =>
      obtain ⟨keypad, hkeypad⟩ := after_holdKey c key pressed
      rw [hkeypad]
      exact ⟨.inr (.refl _), rfl, rfl⟩
  | releaseKeys =>
      rw [after_releaseKeys]
      exact ⟨.inr (.refl _), rfl, rfl⟩
  | step =>
      cases hloaded : c.loaded with
      | false =>
          rw [after_step_of_not_loaded c hloaded]
          exact ⟨.inr (.refl _), rfl, rfl⟩
      | true =>
          rw [after_step_of_loaded c hloaded]
          refine ⟨?_, rfl, rfl⟩
          -- the keypad is not part of the picture
          have hkeys : Machine.Signals c.machine c.showKeypad.machine := .inr ⟨rfl, rfl, rfl⟩
          have hstep := c.showKeypad.machine.signals_step
            c.showKeypad.engine.variant c.showKeypad.engine.random
          have hmachine := c.showKeypad.engine.after_machine .step
          show Machine.Signals c.machine (c.showKeypad.engine.after .step).machine
          rw [hmachine]
          exact hkeys.trans hstep
  | closeFrame => exact absurd rfl hmove

theorem Quiet.watched {ρ : Type} {before after : Console ρ} {id : Nat} (h : Quiet before after)
    (hwatched : before.Watched id) : after.Watched id where
  listener := h.frameListener.trans hwatched.listener
  recorder := by
    rw [h.recorders]
    exact hwatched.recorder

theorem Quiet.upToDate {ρ : Type} {before after : Console ρ} {id : Nat} (h : Quiet before after)
    (hupToDate : before.UpToDate id) : after.UpToDate id := by
  rcases h.signals with hredraw | hsame
  · exact .inl hredraw
  · rcases hupToDate with hredraw | hlatest
    · exact .inl (hsame.redraw.trans hredraw)
    · refine .inr ?_
      rw [Console.latest?, h.recorders, hsame.framePixels]
      exact hlatest

/-! ## Along a path -/

/-- At every end of a frame the recorder has the picture, and the signal is
taken away. -/
theorem Path.delivered {c d : Console ρ} {path : List (Moment ρ)} {id : Nat}
    (h : Path c path d) (hwatched : c.Watched id) (hupToDate : c.UpToDate id) :
    ∀ moment ∈ frameEnds path,
      moment.after.latest? id = some moment.after.machine.framePixels ∧
        moment.after.machine.redraw = false := by
  induction h with
  | nil c => simp [frameEnds]
  | @cons c d move rest hrest ih =>
      by_cases hmove : move = .closeFrame
      · subst hmove
        -- a snapshot that shows the picture is up to date, with no signal left
        have hlatest := Console.latest_frameEnded hwatched hupToDate
        have hrestEnds := ih (Console.watched_frameEnded hwatched) (.inr hlatest)
        intro moment hmoment
        rcases List.mem_cons.mp hmoment with hfirst | hlater
        · rw [hfirst]
          exact ⟨hlatest, c.redraw_frameEnded⟩
        · exact hrestEnds moment hlater
      · have hquiet := move.quiet_after hmove c
        rw [frameEnds_cons_of_ne hmove]
        exact ih (hquiet.watched hwatched) (hquiet.upToDate hupToDate)

/-- Two machines show different pictures. -/
def Machine.PictureDiffers (before after : Machine) : Prop :=
  after.framePixels ≠ before.framePixels ∨ after.resolution ≠ before.resolution

/-- Of two ends of frames, the second reports a change if the picture has
changed since the first. -/
def ReportsChange (earlier later : Moment ρ) : Prop :=
  earlier.after.machine.PictureDiffers later.after.machine →
    Console.closeFrame later.before = .ok true later.after

/-- An end of a frame reports every change that has been signalled. -/
theorem reportsChange_closeFrame {earlier : Moment ρ} {c : Console ρ}
    (hsignals : earlier.after.machine.Signals c.machine) :
    ReportsChange earlier ⟨c, .closeFrame⟩ := by
  intro hdiffers
  rcases hsignals with hredraw | hsame
  · show c.closeFrame = .ok true c.frameEnded.2
    rw [c.closeFrame_eq, hredraw]
  · have hafter : (Moment.mk c .closeFrame).after = c.frameEnded.2 := rfl
    rcases hdiffers with hpixels | hresolution
    · rw [hafter, c.framePixels_frameEnded, hsame.framePixels] at hpixels
      exact absurd rfl hpixels
    · rw [hafter, c.resolution_frameEnded, hsame.resolution] at hresolution
      exact absurd rfl hresolution

/-- From a moment on, as long as everything since then has been signalled, every
end of a frame reports what has changed since the one before it. -/
theorem Path.chain_frameEnds {c d : Console ρ} {path : List (Moment ρ)} (h : Path c path d)
    (first : Moment ρ) (hsignals : first.after.machine.Signals c.machine) :
    (first :: frameEnds path).IsChain ReportsChange := by
  induction h generalizing first with
  | nil c => exact .singleton first
  | @cons c d move rest hrest ih =>
      by_cases hmove : move = .closeFrame
      · subst hmove
        -- the next frame starts here, with a picture that is its own
        have hchain := ih ⟨c, .closeFrame⟩ (.inr (.refl _))
        exact .cons_cons (reportsChange_closeFrame hsignals) hchain
      · rw [frameEnds_cons_of_ne hmove]
        exact ih first (hsignals.trans (move.quiet_after hmove c).signals)

theorem Path.isChain_frameEnds {c d : Console ρ} {path : List (Moment ρ)} (h : Path c path d) :
    (frameEnds path).IsChain ReportsChange := by
  cases h with
  | nil => exact .nil
  | @cons c d move rest hrest =>
      have hchain := hrest.chain_frameEnds ⟨c, move⟩ (.inr (.refl _))
      by_cases hmove : move = .closeFrame
      · subst hmove
        exact hchain
      · rw [frameEnds_cons_of_ne hmove]
        exact hchain.tail

namespace Console

/-- **No redraw is lost.**  Start a recorder on a console and load a program that
fits.  Whatever the host asks for then, at every end of a frame the last
snapshot of the recorder is the picture of the machine, and the signal is taken
away.  An end of a frame reports a change if the picture or the resolution
differs from the last one, whether it is asked for alone, in a frame or in a
run, and a frame that is asked for alone hands the report on. -/
theorem frames_delivered (c : Console ρ) (id : Nat) {recorder : Recorder}
    (hrecorder : c.recorders[id]? = some recorder) (hkeep : 0 ≤ recorder.keep)
    {program : List UInt8} (hfits : program.length ≤ programLimit) (rest : List Request) :
    let started := c.startRecorder id
    let requests := .single (.load program) :: rest
    let ends := frameEnds (started.history requests)
    (∀ moment ∈ ends,
      moment.after.latest? id = some moment.after.machine.framePixels ∧
        moment.after.machine.redraw = false) ∧
    ends.IsChain ReportsChange ∧
    (∀ earlier ∈ ends.getLast?, ∀ changed d,
      advanceFrame (started.afterAll requests) = .ok changed d →
        earlier.after.machine.PictureDiffers d.machine →
          changed = true ∧ d.machine.redraw = false) := by
  intro started requests ends
  have hwatched : started.Watched id := watched_startRecorder hrecorder hkeep
  refine ⟨?_, (path_history started requests).isChain_frameEnds, ?_⟩
  · -- the program that is loaded first brings the invariant about
    have hload : Move.load program ≠ .closeFrame := nofun
    have hpath := path_history started requests
    obtain ⟨later, hhistory⟩ :
        ∃ later, started.history requests = ⟨started, .load program⟩ :: later := ⟨_, rfl⟩
    have hends : ends = frameEnds later := by
      show frameEnds (started.history requests) = frameEnds later
      rw [hhistory, frameEnds_cons_of_ne hload]
    rw [hends]
    rw [hhistory] at hpath
    cases hpath with
    | cons hlater =>
        have hquiet := Move.quiet_after hload started
        refine hlater.delivered (hquiet.watched hwatched) (.inl ?_)
        rw [Move.after_load_of_fits started hfits]
        rfl
  · intro earlier hearlier changed d hframe hdiffers
    -- the frame has an end of its own, which is the last of a longer history
    obtain ⟨before, hbefore, hclose⟩ := frameEnds_of_advanceFrame hframe
    have hchain := (path_history started (requests ++ [.advanceFrame])).isChain_frameEnds
    rw [history_append, frameEnds_append, hbefore] at hchain
    have hreports := (List.isChain_append.mp hchain).2.2 earlier hearlier _ rfl
    rw [closeFrame_eq] at hclose
    cases hclose
    have hclosed := hreports hdiffers
    rw [closeFrame_eq] at hclosed
    refine ⟨?_, before.redraw_frameEnded⟩
    injection hclosed

/-- The program draws a digit in the high resolution; the host meets a key that
does not exist and ends a frame by hand between two that it runs. -/
theorem frames_delivered_in_run :
    ∃ c : Console Cycle, assemble "schip" 2 true (.ofList [7]) = .ok c ∧
      let recording := c.addRecorder 1
      let program : List UInt8 := [0x00, 0xFF, 0xD0, 0x15, 0x12, 0x02]
      let rest : List Request :=
        [.run 1, .single (.holdKey 16 true), .single .closeFrame, .advanceFrame]
      let started := recording.startRecorder 0
      let ends := frameEnds (started.history (.single (.load program) :: rest))
      ends.length = 3 ∧ ends.IsChain ReportsChange ∧
        ∀ moment ∈ ends, moment.after.latest? 0 = some moment.after.machine.framePixels := by
  refine ⟨_, rfl, ?_⟩
  intro recording program rest started ends
  have hrecorder : recording.recorders[0]? = some (.fresh 1) := rfl
  have hfits : program.length ≤ programLimit := by decide
  have hdelivered := frames_delivered recording 0 hrecorder (by decide) hfits rest
  exact ⟨by decide +kernel, hdelivered.2.1, fun moment hmoment => (hdelivered.1 moment hmoment).1⟩

end Console

end SuperChip
